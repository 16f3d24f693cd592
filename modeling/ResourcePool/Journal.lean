import ResourcePool.Event.Basic
import ResourcePool.Failure
import ResourcePool.Lease
import ResourcePool.Population

/-! What happened to a pool, in order, and who did it: a job, or a caller. -/
namespace ResourcePool

/-- Jobs are numbered as they are spawned. -/
abbrev JobId := Nat

/-- How a call of the factory ends. -/
inductive Supply where
  | made
  | failed (text : String)
  | panicked (text : String)
deriving DecidableEq, Repr

/-- What there is to report of a call made for a batch. -/
def Supply.error? : Supply → Option String
  | .made => none
  | .failed error => some error
  | .panicked text => some (Failure.ofPanic text)

inductive Report where
  /-- An event was offered to the log sink, which may have refused it. -/
  | event (event : Event) (refused : Bool)
  | factoryCalled (call : Resource)
  | factoryEnded (call : Resource) (supply : Supply)
  | policyStarted
  | policyStopped
  | populationRead (population : Population)
  | idRead (pool : Nat)
  | resolving (hostname : String) (resolver : Nat)
  | terminating (job : JobKind) (error : String)
deriving DecidableEq, Repr

structure Entry where
  time : Nat
  job : Option JobId
  report : Report
deriving DecidableEq, Repr

/-- The newest entry comes first. -/
abbrev Journal := List Entry

/-- A log sink answers each event by what was reported before: it records the
event, or refuses it. -/
abbrev Sink := Journal → Event → Option Refusal

def Sink.accepting : Sink := fun _ _ => none

end ResourcePool
