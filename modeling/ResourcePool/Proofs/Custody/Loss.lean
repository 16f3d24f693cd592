import ResourcePool.Proofs.Custody.Exclusive

/-! How a slot can be lost while its lease is out: within a generation only by a permitted
removal. -/
namespace ResourcePool.Custody
open Function (update)

variable {c next : Custody} {h : Holder} {l : Lease} {id : SlotId}
variable {allowed : Store.Operation Resource → Prop}

/-- Whether somebody has a lease of the current generation although its slot is gone. -/
def Bereft (c : Custody) (l : Lease) (id : SlotId) : Prop :=
  (∃ h, c.leaseOf h = some l) ∧ l.slot = some id ∧ l.generation = c.store.generation ∧
    c.store.slots.get? id = none

namespace Exclusive

/-- A lease that an operation leaves bereft was so before, or its slot has been removed. -/
theorem bereft_before (exclusive : c.Exclusive) (operation : Store.Operation Resource)
    (holds : c.leaseOf h = some l) (pooled : l.slot = some id)
    (current : l.generation = (c.store.perform operation).2.generation)
    (absent : (c.store.perform operation).2.slots.get? id = none) :
    operation = .remove id ∨ c.Bereft l id := by
  have follows := exclusive.sound.follows operation
  have past := exclusive.past h l id holds pooled
  rw [follows.generation] at current
  have unchanged : l.generation = c.store.generation :=
    Nat.le_antisymm past (current ▸ Nat.le_add_right _ _)
  cases found : c.store.slots.get? id with
  | none => exact Or.inr ⟨⟨h, holds⟩, pooled, unchanged, found⟩
  | some slot =>
      have leased := exclusive.leased h l id slot holds pooled found
      have evicts := follows.kept id slot found (congrArg Slot.status leased) absent
      cases operation with
      | remove other => exact Or.inl (congrArg Store.Operation.remove evicts)
      | clear =>
          rw [unchanged] at current
          exact False.elim (Nat.succ_ne_self _ current.symm)
      | _ => exact False.elim evicts

theorem bereft_step (exclusive : c.Exclusive) (step : Step allowed c next)
    (bereft : next.Bereft l id) : allowed (.remove id) ∨ c.Bereft l id := by
  obtain ⟨⟨h, holds⟩, pooled, current, absent⟩ := bereft
  cases step with
  | upkeep _ permit =>
      rcases exclusive.bereft_before _ holds pooled current absent with rfl | before
      · exact Or.inl permit
      · exact Or.inr before
  | claim _ =>
      rcases holds_cases holds with ⟨_, taken⟩ | ⟨_, before⟩
      · obtain ⟨claim, claimed, rfl⟩ := Option.map_eq_some_iff.mp taken
        cases pooled
        cases absent.symm.trans (exclusive.sound.claim_stored claimed)
      · exact Or.inr ((exclusive.bereft_before .claim before pooled current absent).resolve_left
          (by simp))
  | @enter h' resource generation _ _ =>
      rcases holds_cases holds with ⟨_, ⟨⟩⟩ | ⟨_, before⟩
      · cases absent.symm.trans (c.store.admitLeased_stored pooled).2
      · exact Or.inr ((exclusive.bereft_before (.admitLeased resource generation) before pooled
          current absent).resolve_left (by simp))
  | pass exchange => exact Or.inr ⟨⟨exchange h, holds⟩, pooled, current, absent⟩
  | @giveBack h' lease out =>
      rcases holds_cases holds with ⟨_, ⟨⟩⟩ | ⟨_, before⟩
      cases own : lease.slot with
      | none =>
          rw [own] at current absent
          exact Or.inr ⟨⟨h, before⟩, pooled, current, absent⟩
      | some slot =>
          rw [own] at current absent
          exact Or.inr ((exclusive.bereft_before (.release slot lease.generation) before pooled
            current absent).resolve_left (by simp))
  | @forget h' lease out =>
      rcases holds_cases holds with ⟨_, ⟨⟩⟩ | ⟨different, before⟩
      cases own : lease.slot with
      | none =>
          rw [own] at current absent
          exact Or.inr ⟨⟨h, before⟩, pooled, current, absent⟩
      | some slot =>
          rw [own] at current absent
          refine Or.inr ((exclusive.bereft_before (.remove slot) before pooled current
            absent).resolve_left ?_)
          rintro ⟨rfl⟩
          exact different (exclusive.alone h h' l lease id before out pooled own)

theorem bereft_steps (exclusive : c.Exclusive) (path : Relation.ReflTransGen (Step allowed) c next)
    (bereft : next.Bereft l id) : allowed (.remove id) ∨ c.Bereft l id := by
  induction path with
  | refl => exact Or.inr bereft
  | tail path last ih =>
      rcases (exclusive.steps path).bereft_step last bereft with permit | before
      · exact Or.inl permit
      · exact ih before

end Exclusive
end ResourcePool.Custody
