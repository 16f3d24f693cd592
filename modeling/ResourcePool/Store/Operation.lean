import ResourcePool.Store.Basic

/-! The operations of a store as data, what each answers, and the histories
they make. -/
namespace ResourcePool.Store
variable {α : Type}

inductive Operation (α : Type) where
  | admitLeased (resource : α) (generation : Nat)
  | admitAvailable (resources : List α) (generation : Nat)
  | claim
  | release (slot : SlotId) (generation : Nat)
  | remove (slot : SlotId)
  | lockAvailable (slot : SlotId)
  | availableIds
  | members
  | dispose (count : Nat)
  | clear

inductive Answer (α : Type) where
  | slot (id : Option SlotId)
  | admitted (count : Nat)
  | rejected (resources : List α)
  | claimed (claim : Option (Claim α))
  | released (outcome : Release)
  | resource (found : Option α)
  | ids (slots : List SlotId)
  | members (population : Population) (resources : List α)
  | disposed (resources : List α)
  | cleared (generation : Nat) (dropped : List α)

def perform (s : Store α) : Operation α → Answer α × Store α
  | .admitLeased resource generation =>
      let (id, s) := s.admitLeased resource generation
      (.slot id, s)
  | .admitAvailable resources generation =>
      match s.admitAvailable resources generation with
      | some s => (.admitted resources.length, s)
      | none => (.rejected resources, s)
  | .claim =>
      let (claim, s) := s.claim
      (.claimed claim, s)
  | .release slot generation =>
      let (outcome, s) := s.release slot generation
      (.released outcome, s)
  | .remove slot =>
      let (found, s) := s.remove slot
      (.resource found, s)
  | .lockAvailable slot => (.resource (s.lockAvailable slot), s)
  | .availableIds => (.ids s.available, s)
  | .members => (.members s.population s.members, s)
  | .dispose count =>
      let (resources, s) := s.dispose count
      (.disposed resources, s)
  | .clear =>
      let (dropped, s) := s.clear
      (.cleared s.generation dropped, s)

/-- The store after a history. -/
def after (s : Store α) (history : List (Operation α)) : Store α :=
  history.foldl (fun s operation => (s.perform operation).2) s

end ResourcePool.Store
