import ResourcePool.Address.Basic
import ResourcePool.Journal
import ResourcePool.Metrics.Counter
import ResourcePool.Settings
import ResourcePool.Store.Basic

/-! The books of one pool: what its callers, its leases and its jobs share.

References to resources are counted: `references` holds a resource once for each
place that keeps it, and every operation takes and lets go of its own. -/
namespace ResourcePool

structure Books where
  id : Nat := 1
  settings : Settings := {}
  tuning : Tuning := settings.tuning
  store : Store Resource := {}
  counters : Counters := {}
  /-- Factory calls begun so far; the next call has this number. -/
  calls : Resource := 0
  references : List Resource := []
  /-- Addresses seen when a watching policy last found a change. -/
  baseline : List Address := []
  /-- Resolvers built so far; each resolution has a new one. -/
  resolvers : Nat := 0
  sink : Sink := .accepting
  clock : Nat := 0
  /-- The job whose turn it is, or none for a caller. -/
  actor : Option JobId := none
  journal : Journal := []
  /-- Set once a failed job has taken the process down. -/
  terminated : Bool := false

namespace Books

def note (b : Books) (report : Report) : Books :=
  { b with journal := ⟨b.clock, b.actor, report⟩ :: b.journal }

/-- Offers an event to the sink. -/
def offer (b : Books) (event : Event) : Option Refusal × Books :=
  let refusal := b.sink b.journal event
  (refusal, b.note (.event event refusal.isSome))

/-- Offers an event where nobody could be told of a refusal. -/
def tell (b : Books) (event : Event) : Books := (b.offer event).2

def count (b : Books) (counter : Counter) (amount : Nat) : Books :=
  { b with counters := b.counters.record counter amount }

def take (b : Books) (resource : Resource) : Books :=
  { b with references := resource :: b.references }

def letGo (b : Books) (resource : Resource) : Books :=
  { b with references := b.references.erase resource }

def takeAll (b : Books) (resources : List Resource) : Books := resources.foldl take b

def letGoAll (b : Books) (resources : List Resource) : Books := resources.foldl letGo b

/-- Starts a new population. The store lets go of all members; those leased out
stay with their leases. -/
def clear (b : Books) : Books :=
  let members := b.store.members
  let (dropped, store) := b.store.clear
  let b := { b with store }.count .clears 1
  (b.tell (.cleared store.generation dropped.length)).letGoAll members

/-- Takes back a leased resource. -/
def release (b : Books) (lease : Lease) : Books :=
  let (outcome, store) :=
    match lease.slot with
    | some slot => b.store.release slot lease.generation
    | none => (.discarded, b.store)
  let b := { b with store }
  let b := match outcome with
    | .recycled => b.count .returned 1
    | .discarded => (b.count .discarded 1).tell (.returnDiscarded lease.slot)
  b.letGo lease.resource

/-- Takes a slot off the books; tells whether it was there. -/
def remove (b : Books) (slot : SlotId) : Bool × Books :=
  match b.store.remove slot with
  | (some resource, store) => (true, { b with store }.letGo resource)
  | (none, _) => (false, b)

/-- Takes a lease's slot off the books. The resource stays with the caller. -/
def forget (b : Books) (lease : Lease) : Books :=
  match lease.slot with
  | some slot => (b.remove slot).2
  | none => b

/-- Leases the slot that became available last. -/
def claim (b : Books) : Option Lease × Books :=
  match b.store.claim with
  | (some claim, store) =>
      (some ⟨claim.resource, some claim.slot, claim.generation⟩,
        { b with store }.take claim.resource)
  | (none, store) => (none, { b with store })

/-- Begins a call of the factory. -/
def callFactory (b : Books) : Resource × Books :=
  (b.calls, { b with calls := b.calls + 1 }.note (.factoryCalled b.calls))

/-- A call of the factory ended; what it made is referenced by whoever called. -/
def endCall (b : Books) (call : Resource) (supply : Supply) : Books :=
  let b := b.note (.factoryEnded call supply)
  match supply with
  | .made => b.take call
  | _ => b

end Books

/-- A stretch of a job's work between two suspensions. A refused event or a failing
policy cuts it short. -/
abbrev Work := ExceptT Failure (StateM Books)

namespace Work

def books : Work Books := get

def apply (change : Books → Books) : Work Unit := modify change

/-- Offers an event; a refusal fails the job. -/
def log (event : Event) : Work Unit := do
  match ← modifyGet fun b => b.offer event with
  | none => pure ()
  | some refusal => throw (.logging refusal)

end Work
end ResourcePool
