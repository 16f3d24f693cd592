import ResourcePool.Metrics.Basic
import ResourcePool.Scenario.Line
import ResourcePool.Simulation.Basic

/-! The steps of a scenario and what each answers. Leases, kept resources and gets in
the background go by names. -/
namespace ResourcePool.Scenario

inductive Step where
  | get (as : String)
  | tryGet (as : String)
  | spawnGet (as : String)
  | pollGet (as : String)
  | cancelGet (as : String)
  | drop (lease : String)
  | dropAll
  | detach (lease : String) (as : Option String)
  | hold (lease as : String)
  | unhold (as : String)
  | lease (lease : String)
  | clear
  | fullState
  | metrics
  | export
  | exposition (name : String) (tags : List (String × String))
  | set (what : String) (value : Nat)
  | settings
  | start (job : JobKind)
  | stop (job : JobKind)
  | stopAll
  | startBoth (job : JobKind)
  | running
  | advance (ticks : Nat)
  | setFactory (plan : Option (List Simulation.Scripted)) (default : Option Simulation.Scripted)
  | setResolutions (plan : Option (List Simulation.ScriptedResolution))
      (default : Option Simulation.ScriptedResolution)
  | setTicks (plan : Option (List (List Simulation.TickStep)))
      (default : Option (List Simulation.TickStep))
  | setCheck (resource : Option Resource) (result : Simulation.Scripted)
  | setSink (failing : Bool) (refused : List String)
  | addresses
  | newPool
  | dropPool
  | unknown

/-- Why a step could not be carried out. -/
inductive Misstep where
  | noLease
  | noGet
  | getsPending
  | noPool
  | noWatch
  | noSetting
  | noStep
deriving DecidableEq, Repr

def Misstep.message : Misstep → String
  | noLease => "no such lease"
  | noGet => "no such get"
  | getsPending => "gets pending"
  | noPool => "no pool"
  | noWatch => "no dns policy"
  | noSetting => "unknown setting"
  | noStep => "unknown step"

inductive Reply where
  | nothing
  | word (text : String)
  | number (n : Nat)
  | lease (lease : Lease)
  | census (census : Census)
  | metrics (metrics : Metrics)
  | entries (entries : List (String × String))
  | lines (lines : List String)
  | tuning (tuning : Tuning)
  | running (kinds : List JobKind)
  | both (first second : Reply)
  | watch (hostname : String) (baseline : List Address)
  | failed (failure : Failure)
  | panicked (text : String)
  | misstep (misstep : Misstep)

/-- Steps that need the pool itself. -/
def Step.needsPool : Step → Bool
  | .drop _ | .dropAll | .detach .. | .hold .. | .unhold _ | .lease _ | .advance _
  | .setFactory .. | .setResolutions .. | .setTicks .. | .setCheck .. | .setSink .. | .addresses
  | .unknown => false
  | _ => true

/-- A value of the tuning under the name it is set by. -/
def setTuning? (t : Tuning) (what : String) (value : Nat) : Option Tuning :=
  match what with
  | "min_spare" => some { t with minSpare := value }
  | "max_spare" => some { t with maxSpare := value }
  | "keeper_ms" => some { t with keeperPause := .ofMillis value }
  | "health_ms" => some { t with healthPause := .ofMillis value }
  | "management_ms" => some { t with policyPause := .ofMillis value }
  | _ => none

/-- A sink that is out of service for all events or for those of some names. -/
def offline (failing : Bool) (refused : List String) : Sink := fun _ event =>
  if failing || refused.contains event.name then
    some ⟨"sink offline while logging " ++ event.name⟩
  else none

end ResourcePool.Scenario
