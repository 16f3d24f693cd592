import ResourcePool.Proofs.Custody.Origin

/-! The number of a slot stands for one resource, in the store and on leases alike: a register
of what the numbers stand for only ever gets new entries. A lease that ends changes no slot but
its own, and none at all once its generation is over. -/
namespace ResourcePool.Custody

variable {c next : Custody} {h : Holder} {l : Lease} {register : SlotId → Resource}
variable {allowed : Store.Operation Resource → Prop}

/-- A register has the resource of every slot that the store or a lease knows. -/
structure Registers (register : SlotId → Resource) (c : Custody) : Prop where
  members : ∀ id slot, c.store.slots.get? id = some slot → register id = slot.resource
  leases : ∀ h l id, c.leaseOf h = some l → l.slot = some id → register id = l.resource

/-- A slot that a step leaves in the store was there with its resource, or has a new number. -/
theorem step_opened (sound : c.store.Sound) (step : Step allowed c next) :
    c.store.nextId ≤ next.store.nextId ∧
    ∀ id slot, next.store.slots.get? id = some slot →
      (∃ before, c.store.slots.get? id = some before ∧ before.resource = slot.resource) ∨
        c.store.nextId ≤ id.number := by
  rcases step_store step with same | ⟨operation, performed, _⟩
  · rw [same]
    exact ⟨Nat.le_refl _, fun id slot found => Or.inl ⟨slot, found, rfl⟩⟩
  · have follows := sound.follows operation
    rw [performed]
    refine ⟨follows.nextId, fun id slot found => ?_⟩
    rcases follows.origin id slot found with ⟨before, stored, same, _⟩ | ⟨later, _⟩
    · rw [same]
      exact Or.inl ⟨before, stored, rfl⟩
    · exact Or.inr later

namespace Registers

theorem close (registers : Registers register c) : Registers register c.close where
  members := by simp [Custody.close]
  leases := registers.leases

/-- What a register says of the slots opened so far stands. -/
theorem step (registers : Registers register c) (exclusive : c.Exclusive)
    (step : Step allowed c next) :
    ∃ extended, (∀ id, id.number < c.store.nextId → extended id = register id) ∧
      Registers extended next := by
  obtain ⟨_, origin⟩ := step_opened exclusive.sound step
  let extended : SlotId → Resource := fun id =>
    if id.number < c.store.nextId then register id
    else ((next.store.slots.get? id).map Slot.resource).getD 0
  have old : ∀ id, id.number < c.store.nextId → extended id = register id :=
    fun id opened => if_pos opened
  have members : ∀ id slot, next.store.slots.get? id = some slot →
      extended id = slot.resource := by
    intro id slot found
    rcases origin id slot found with ⟨before, stored, same⟩ | new
    · rw [old id (exclusive.sound.opened id before stored), ← same]
      exact registers.members id before stored
    · simp only [extended, if_neg (Nat.not_lt.mpr new), found, Option.map_some, Option.getD_some]
  refine ⟨extended, old, members, ?_⟩
  intro h l id holds pooled
  rcases step_new exclusive.sound step holds pooled with ⟨h', before⟩ | ⟨_, stored⟩
  · rw [old id (exclusive.known h' l id before pooled)]
    exact registers.leases h' l id before pooled
  · exact members id _ stored

theorem steps (registers : Registers register c) (exclusive : c.Exclusive)
    (path : Relation.ReflTransGen (Step allowed) c next) :
    c.store.nextId ≤ next.store.nextId ∧
    ∃ extended, (∀ id, id.number < c.store.nextId → extended id = register id) ∧
      Registers extended next := by
  induction path with
  | refl => exact ⟨Nat.le_refl _, register, fun _ _ => rfl, registers⟩
  | tail path last ih =>
      obtain ⟨grows, middle, old, registers⟩ := ih
      have exclusive := exclusive.steps path
      obtain ⟨extended, old', registers'⟩ := registers.step exclusive last
      refine ⟨Nat.le_trans grows (step_opened exclusive.sound last).1, extended, ?_, registers'⟩
      intro id opened
      rw [old' id (Nat.lt_of_lt_of_le opened grows), old id opened]

end Registers

/-! ## Leases that end -/

/-- Whether two stores have the same slots, but for one that is leased to a holder under the
current generation and to nobody else. -/
def OwnAtMost (c : Custody) (h : Holder) (l : Lease) (store : Store Resource) : Prop :=
  ∀ id, store.slots.get? id = c.store.slots.get? id ∨
    l.slot = some id ∧ l.generation = c.store.generation ∧
      c.store.slots.get? id = some ⟨l.resource, l.generation, .leased⟩ ∧
      ∀ h' l', c.leaseOf h' = some l' → l'.slot = some id → h' = h

namespace Exclusive

/-- The slot of a lease is in the store only as long as the generation of the lease lasts. -/
theorem absent_of_stale {id : SlotId} (exclusive : c.Exclusive) (holds : c.leaseOf h = some l)
    (pooled : l.slot = some id) (stale : l.generation ≠ c.store.generation) :
    c.store.slots.get? id = none := by
  cases found : c.store.slots.get? id with
  | none => rfl
  | some slot =>
      have leased := exclusive.leased h l id slot holds pooled found
      have current := exclusive.sound.current id slot found
      rw [leased] at current
      exact False.elim (stale current)

/-- What spares all other slots, and does nothing where the slot is gone, concerns at most the
slot of the lease. -/
theorem ownAtMost {store : Store Resource} (exclusive : c.Exclusive)
    (holds : c.leaseOf h = some l)
    (others : ∀ id, l.slot ≠ some id → store.slots.get? id = c.store.slots.get? id)
    (gone : ∀ id, l.slot = some id → c.store.slots.get? id = none →
      store.slots.get? id = none) : OwnAtMost c h l store := by
  intro id
  by_cases own : l.slot = some id
  · cases found : c.store.slots.get? id with
    | none => exact Or.inl (gone id own found)
    | some slot =>
        have leased := exclusive.leased h l id slot holds own found
        have current := exclusive.sound.current id slot found
        rw [leased] at current
        exact Or.inr ⟨own, current, congrArg some leased, fun h' l' holds' own' =>
          exclusive.alone h' h l' l id holds' holds own' own⟩
  · exact Or.inl (others id own)

theorem ownAtMost_release (exclusive : c.Exclusive) (holds : c.leaseOf h = some l) :
    OwnAtMost c h l (l.slot.elim c.store fun slot => (c.store.release slot l.generation).2) := by
  apply exclusive.ownAtMost holds
  · intro id other
    cases own : l.slot with
    | none => rfl
    | some slot => exact c.store.get?_release_of_ne _ fun same => other (same ▸ own)
  · intro id own absent
    rw [own, Option.elim_some, Store.release_absent absent, absent]

theorem ownAtMost_remove (exclusive : c.Exclusive) (holds : c.leaseOf h = some l) :
    OwnAtMost c h l (l.slot.elim c.store fun slot => (c.store.remove slot).2) := by
  apply exclusive.ownAtMost holds
  · intro id other
    cases own : l.slot with
    | none => rfl
    | some slot => exact c.store.get?_remove_of_ne fun same => other (same ▸ own)
  · intro id own absent
    rw [own, Option.elim_some, Store.remove_absent absent, absent]

/-- A lease from before a clearing ends without a change of the store. -/
theorem stale_release (exclusive : c.Exclusive) (holds : c.leaseOf h = some l)
    (stale : l.generation ≠ c.store.generation) :
    (l.slot.elim c.store fun slot => (c.store.release slot l.generation).2) = c.store := by
  cases own : l.slot with
  | none => rfl
  | some slot => exact Store.release_absent (exclusive.absent_of_stale holds own stale) _

theorem stale_remove (exclusive : c.Exclusive) (holds : c.leaseOf h = some l)
    (stale : l.generation ≠ c.store.generation) :
    (l.slot.elim c.store fun slot => (c.store.remove slot).2) = c.store := by
  cases own : l.slot with
  | none => rfl
  | some slot => exact Store.remove_absent (exclusive.absent_of_stale holds own stale)

end Exclusive
end ResourcePool.Custody
