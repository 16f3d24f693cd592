import ResourcePool.Books.Basic

/-! What a management policy does in a tick. A tick may act on the pool, wait, and
act again; it ends well, with a failure, or in a panic. Acts that need the log
fail the tick when the sink refuses. -/
namespace ResourcePool

/-- A stretch of a policy's tick; it may fail with a text. -/
abbrev Tick := ExceptT String (StateM Books)

namespace Tick

def apply (change : Books → Books) : Tick Unit := modify change

def log (event : Event) : Tick Unit := do
  match ← modifyGet fun b => b.offer event with
  | none => pure ()
  | some refusal => throw refusal.message

end Tick

namespace Policy

/-- What a policy of the user's may do to the pool. -/
inductive Act where
  | clear
  /-- Offers an event and insists on it. -/
  | log (event : Event)
  /-- Offers an event and carries on whatever the sink says. -/
  | tell (event : Event)
  | readPopulation
  | readId
deriving DecidableEq, Repr

/-- How a stretch of a tick ends. -/
inductive Ending where
  | waiting
  | done
  | failed (text : String)
  | panicked (text : String)
deriving DecidableEq, Repr

def act : Act → Tick Unit
  | .clear => Tick.apply Books.clear
  | .log event => Tick.log event
  | .tell event => Tick.apply (·.tell event)
  | .readPopulation => Tick.apply fun b => b.note (.populationRead b.store.population)
  | .readId => Tick.apply fun b => b.note (.idRead b.id)

def acts : List Act → Tick Unit
  | [] => pure ()
  | a :: rest => do
      act a
      acts rest

/-- A policy that starts has seen nothing yet. -/
def start (policy : Policy) (b : Books) : Books :=
  let b := b.note .policyStarted
  match policy with
  | .addresses _ => { b with baseline := [] }
  | .custom _ => b

/-- A watching policy asks a new resolver in each tick; a policy of the user's is
asked for its acts. -/
def beginTick (policy : Policy) (b : Books) : Books :=
  match policy with
  | .addresses hostname =>
      { b with resolvers := b.resolvers + 1 }.note (.resolving hostname (b.resolvers + 1))
  | .custom _ => b

/-- Answer of a resolver: addresses in any order, or the text of a failure. -/
abbrev Resolution := Except String (List Address)

/-- Clears the pool if the addresses of the host changed as a set. The change counts
as seen only once it was logged and the pool is cleared. -/
def watch (hostname : String) : Resolution → Tick Unit
  | .error text => Tick.log (.resolutionFailed hostname text)
  | .ok found => do
      let current := Address.canonical found
      let baseline := (← get).baseline
      if baseline ≠ current then
        Tick.log (.addressesChanged hostname baseline.length current.length)
        Tick.apply Books.clear
        Tick.apply fun b => { b with baseline := current }

end Policy
end ResourcePool
