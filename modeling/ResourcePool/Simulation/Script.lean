import ResourcePool.Upkeep.Signal

/-! What the surroundings of a simulated pool do: how its factory calls and health
checks end and when, and what its policy does in each tick. Plans are used up entry
by entry; a default follows. -/
namespace ResourcePool.Simulation

inductive Result where
  | ok
  /-- The answer of a check that finds the resource broken. -/
  | bad
  | failed (text : String)
  | panicked (text : String)
  /-- Nothing ever happens. -/
  | hang
deriving DecidableEq, Repr

/-- A result that comes after a time; without delay it comes at once. -/
structure Scripted where
  result : Result := .ok
  delay : Nat := 0
deriving DecidableEq, Repr

def Result.supply? : Result → Option Supply
  | ok | bad => some .made
  | failed text => some (.failed text)
  | panicked text => some (.panicked text)
  | hang => none

def Result.verdict? : Result → Option Verdict
  | ok => some .sound
  | bad => some .broken
  | failed text => some (.failed text)
  | panicked text => some (.panicked text)
  | hang => none

structure Plan (α : Type) where
  entries : List α := []
  default : α

def Plan.draw {α : Type} (p : Plan α) : α × Plan α :=
  match p.entries with
  | [] => (p.default, p)
  | entry :: rest => (entry, { p with entries := rest })

/-- How a check of a resource goes. -/
inductive Checking where
  /-- Sound are the resources that leave a certain remainder. -/
  | remainder (divisor remainder : Nat)
  | byResource (default : Scripted) (results : Table Resource Scripted)

def Checking.outcome (c : Checking) (resource : Resource) : Scripted :=
  match c with
  | .remainder divisor wanted =>
      if divisor = 0 then
        { result := .panicked "attempt to calculate the remainder with a divisor of zero" }
      else { result := if resource % divisor = wanted then .ok else .bad }
  | .byResource default results => (results.get? resource).getD default

/-- A step of a tick. -/
inductive TickStep where
  | act (act : Policy.Act)
  | delay (ticks : Nat)
  | fail (text : String)
  | panic (text : String)
deriving DecidableEq, Repr

structure ScriptedResolution where
  resolution : Policy.Resolution
  delay : Nat := 0

/-- What the policy does in its ticks. -/
inductive Ticking where
  | resolutions (plan : Plan ScriptedResolution)
  | steps (plan : Plan (List TickStep))
  /-- Adds up the members in use at each tick, and clears the pool and starts over
  when the sum reaches a limit. -/
  | tally (seen limit : Nat)

structure Script where
  factory : Plan Scripted := { default := {} }
  checking : Checking := .byResource {} {}
  ticking : Ticking := .steps { default := [] }

/-- The acts of a tick up to the first wait, how that stretch ends, and the wait
with the steps after it. -/
def stretch : List TickStep → List Policy.Act × Policy.Ending × Option (Nat × List TickStep)
  | [] => ([], .done, none)
  | .act a :: rest =>
      let (acts, ending, later) := stretch rest
      (a :: acts, ending, later)
  | .delay 0 :: rest => stretch rest
  | .delay (n + 1) :: rest => ([], .waiting, some (n + 1, rest))
  | .fail text :: _ => ([], .failed text, none)
  | .panic text :: _ => ([], .panicked text, none)

end ResourcePool.Simulation
