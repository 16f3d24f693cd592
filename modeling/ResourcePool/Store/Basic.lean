import ResourcePool.Population
import ResourcePool.Slot
import ResourcePool.Table

/-! The slots of one population and the queue of those ready to be leased.
Clearing starts a new generation: slots of an earlier one never come back, and
numbers are not used twice. -/
namespace ResourcePool

inductive SlotStatus where
  | available
  | leased
deriving DecidableEq, Repr

structure Slot (α : Type) where
  resource : α
  generation : Nat
  status : SlotStatus
deriving Repr, DecidableEq

/-- What became of a resource that was handed back. -/
inductive Release where
  | recycled
  | discarded
deriving DecidableEq, Repr

/-- A slot taken from the queue, with the generation it was taken under. -/
structure Claim (α : Type) where
  slot : SlotId
  resource : α
  generation : Nat
deriving Repr, DecidableEq

structure Store (α : Type) where
  generation : Nat := 0
  nextId : Nat := 0
  slots : Table SlotId (Slot α) := {}
  /-- Available slots, the longest idle first. -/
  available : List SlotId := []
deriving Repr

namespace Store
variable {α : Type}

instance : Inhabited (Store α) := ⟨{}⟩

def population (s : Store α) : Population := ⟨s.slots.size, s.available.length⟩

def members (s : Store α) : List α := s.slots.values.map Slot.resource

/-- The members as somebody comes by them, for whom any order will do: in the order given, if
it is one of them. -/
def membersIn [DecidableEq α] (s : Store α) (order : List α) : List α :=
  if order.Perm s.members then order else s.members

theorem membersIn_perm [DecidableEq α] (s : Store α) (order : List α) :
    (s.membersIn order).Perm s.members := by
  unfold membersIn
  split
  · assumption
  · exact .refl _

/-- Opens the next slot. -/
def insert (s : Store α) (resource : α) (status : SlotStatus) : SlotId × Store α :=
  let id : SlotId := ⟨s.nextId⟩
  (id, { s with
    nextId := s.nextId + 1
    slots := s.slots.set id ⟨resource, s.generation, status⟩
    available := if status = .available then s.available ++ [id] else s.available })

/-- Takes in a resource that is already leased out, unless the population it
was made for is gone. -/
def admitLeased (s : Store α) (resource : α) (generation : Nat) : Option SlotId × Store α :=
  if generation = s.generation then
    let (id, s) := s.insert resource .leased
    (some id, s)
  else (none, s)

def insertAll (s : Store α) (resources : List α) : Store α :=
  resources.foldl (fun s resource => (s.insert resource .available).2) s

/-- Takes in a batch of idle resources, all or none: one made for an earlier
population is refused as it is. -/
def admitAvailable (s : Store α) (resources : List α) (generation : Nat) : Option (Store α) :=
  if generation = s.generation then some (s.insertAll resources) else none

/-- Takes the slot that became available last. -/
def claim (s : Store α) : Option (Claim α) × Store α :=
  match s.available.getLast? with
  | none => (none, s)
  | some id =>
      let s := { s with available := s.available.dropLast }
      match s.slots.get? id with
      | none => (none, s)
      | some slot =>
          (some ⟨id, slot.resource, s.generation⟩,
            { s with slots := s.slots.set id { slot with status := .leased } })

/-- Hands a leased slot back. It is recycled only if it is known, leased and of
the current generation. -/
def release (s : Store α) (id : SlotId) (generation : Nat) : Release × Store α :=
  if generation ≠ s.generation then (.discarded, s)
  else match s.slots.get? id with
    | none => (.discarded, s)
    | some slot =>
        if slot.status = .leased ∧ slot.generation = generation then
          (.recycled, { s with
            slots := s.slots.set id { slot with status := .available }
            available := s.available ++ [id] })
        else (.discarded, s)

/-- Forgets a slot whatever its status. -/
def remove (s : Store α) (id : SlotId) : Option α × Store α :=
  match s.slots.get? id with
  | none => (none, s)
  | some slot =>
      (some slot.resource, { s with
        slots := s.slots.erase id
        available :=
          if slot.status = .available then s.available.filter (· ≠ id) else s.available })

/-- The resource of a slot that is still available. -/
def lockAvailable (s : Store α) (id : SlotId) : Option α :=
  match s.slots.get? id with
  | some slot => if slot.status = .available then some slot.resource else none
  | none => none

/-- Forgets up to a number of available slots, the longest idle first. -/
def disposeFrom : List SlotId → Nat → Store α → List α × Store α
  | [], _, s => ([], { s with available := [] })
  | queue, 0, s => ([], { s with available := queue })
  | id :: queue, n + 1, s =>
      match s.slots.get? id with
      | none => disposeFrom queue (n + 1) s
      | some slot =>
          let (rest, s) := disposeFrom queue n { s with slots := s.slots.erase id }
          (slot.resource :: rest, s)

def dispose (s : Store α) (count : Nat) : List α × Store α :=
  disposeFrom s.available count s

/-- Starts a new generation without slots, and gives back what was available. -/
def clear (s : Store α) : List α × Store α :=
  ((s.slots.values.filter (·.status = .available)).map Slot.resource,
    { s with generation := s.generation + 1, slots := {}, available := [] })

end Store
end ResourcePool
