import ResourcePool.Event.Basic
import ResourcePool.Job.Kind

/-! Events as records of a structured log: chatter of the jobs' cycles is traced,
changes of the population are debugging or information, failures are warnings,
and failures of a whole job are errors. -/
namespace ResourcePool

inductive Level where
  | trace
  | debug
  | info
  | warn
  | error
deriving DecidableEq, Repr

def Level.render : Level → String
  | trace => "TRACE"
  | debug => "DEBUG"
  | info => "INFO"
  | warn => "WARN"
  | error => "ERROR"

def Event.level : Event → Level
  | .keeperCycleStart | .populationOk .. | .healthCycleStart | .snapshot .. | .locked ..
  | .checking .. | .keeping .. | .checksCompleted .. | .checksFinished | .healthCycleFinished
  | .policyCycleStart .. | .policyCycleEnd .. => .trace
  | .emergencyCreation | .emergencyAdded .. | .emergencySkipped | .returnDiscarded ..
  | .tooFew .. | .additionSkipped .. | .tooMany .. | .keeperStopped | .unlockable ..
  | .healthStopped | .policyStopped .. => .debug
  | .erasing .. | .cleared .. | .added .. | .disposing .. | .evicting .. | .addressesChanged .. =>
      .info
  | .creationFailed .. | .checkFailed .. | .resolutionFailed .. => .warn
  | .keeperFailed .. | .healthFailed .. | .policyFailed .. => .error

/-- A datum of a record: counts stay numbers, all else is text. -/
inductive Datum where
  | count (n : Nat)
  | text (s : String)
deriving DecidableEq, Repr

structure Record where
  level : Level
  message : String
  fields : List (String × Datum)
deriving DecidableEq, Repr

namespace Record

def datum : Event.Field → Datum
  | .count n => .count n
  | .text s => .text s
  | .slot id => .text id.render
  | .slotIfAny id => .text (SlotId.describeOption id)

def ofEvent (pool : Nat) (event : Event) : Record where
  level := event.level
  message := event.name
  fields := ("pool_id", .count pool) :: event.fields.map fun (name, field) => (name, datum field)

/-- The last record before a failed job takes the process down. -/
def terminating (pool : Nat) (job : JobKind) (error : String) : Record where
  level := .error
  message := "terminating after job failure"
  fields := [("pool_id", .count pool), ("job", .text job.render), ("error", .text error)]

end Record
end ResourcePool
