import ResourcePool.Store.Operation

/-! A store tried out on its own. Resources are told apart by the order in which they
were brought, so equal values stay different resources; the handles that claims
give out are kept until they are dropped. -/
namespace ResourcePool.Store

/-- A value as one resource among others that may be equal to it. -/
structure Piece (α : Type) where
  serial : Nat
  value : α
deriving DecidableEq, Repr

variable {α β : Type}

/-- Makes pieces of the values that an operation brings. -/
def Operation.tag (serial : Nat) : Operation α → Operation (Piece α) × Nat
  | .admitLeased value generation => (.admitLeased ⟨serial, value⟩ generation, serial + 1)
  | .admitAvailable values generation =>
      (.admitAvailable (values.zipIdx.map fun (value, i) => ⟨serial + i, value⟩) generation,
        serial + values.length)
  | .claim => (.claim, serial)
  | .release slot generation => (.release slot generation, serial)
  | .remove slot => (.remove slot, serial)
  | .lockAvailable slot => (.lockAvailable slot, serial)
  | .availableIds => (.availableIds, serial)
  | .members => (.members, serial)
  | .dispose count => (.dispose count, serial)
  | .clear => (.clear, serial)

def Answer.map (f : α → β) : Answer α → Answer β
  | .slot id => .slot id
  | .admitted count => .admitted count
  | .rejected resources => .rejected (resources.map f)
  | .claimed claim => .claimed (claim.map fun c => ⟨c.slot, f c.resource, c.generation⟩)
  | .released outcome => .released outcome
  | .resource found => .resource (found.map f)
  | .ids slots => .ids slots
  | .members population resources => .members population (resources.map f)
  | .disposed resources => .disposed (resources.map f)
  | .cleared generation dropped => .cleared generation (dropped.map f)

structure Trial (α : Type) where
  store : Store (Piece α) := {}
  /-- Handles of claims, the oldest first. -/
  held : List (Piece α) := []
  /-- Resources brought so far. -/
  brought : Nat := 0

namespace Trial

def perform (t : Trial α) (operation : Operation α) : Answer α × Trial α :=
  let (operation, brought) := operation.tag t.brought
  let (answer, store) := t.store.perform operation
  let held := match answer with
    | .claimed (some claim) => t.held ++ [claim.resource]
    | _ => t.held
  (answer.map Piece.value, { store, held, brought })

def dropHeld (t : Trial α) : Trial α := { t with held := [] }

/-- Values of the resources that the store or a handle refers to, each resource once. -/
def alive (t : Trial α) : List α :=
  let pieces := t.store.members ++ t.held
  let firsts := pieces.eraseDupsBy fun a b => a.serial == b.serial
  firsts.map Piece.value

end Trial
end ResourcePool.Store
