import ResourcePool.Proofs.Custody.Exclusive

/-! Where the resources of a store and of leases come from. What holds of all that enters
under a generation holds of all that is there under that generation; a lease of a slot that
nobody had is of a generation that was current since. -/
namespace ResourcePool.Custody
open Function (update)

variable {c next : Custody} {h : Holder} {l : Lease} {P Q : Nat → Resource → Prop}
variable {allowed : Store.Operation Resource → Prop}

/-- Without a permit nothing is cleared and nothing comes in. -/
theorem step_store (step : Step allowed c next) : next.store = c.store ∨
    ∃ operation, next.store = (c.store.perform operation).2 ∧ (allowed operation ∨
      operation.clearings = 0 ∧ ∀ resource generation, ¬ operation.Brings resource generation) := by
  cases step with
  | @upkeep operation _ permit => exact Or.inr ⟨operation, rfl, Or.inl permit⟩
  | claim _ => exact Or.inr ⟨.claim, rfl, Or.inr ⟨rfl, fun _ _ => id⟩⟩
  | @enter _ resource generation _ permit =>
      exact Or.inr ⟨.admitLeased resource generation, rfl, Or.inl permit⟩
  | pass _ => exact Or.inl rfl
  | @giveBack _ lease _ =>
      cases lease.slot with
      | none => exact Or.inl rfl
      | some slot => exact Or.inr ⟨.release slot lease.generation, rfl, Or.inr ⟨rfl, fun _ _ => id⟩⟩
  | @forget _ lease _ =>
      cases lease.slot with
      | none => exact Or.inl rfl
      | some slot => exact Or.inr ⟨.remove slot, rfl, Or.inr ⟨rfl, fun _ _ => id⟩⟩

/-- Generations only grow, and only by clearings. -/
theorem step_generation (sound : c.store.Sound) (step : Step allowed c next) :
    c.store.generation ≤ next.store.generation ∧
      (next.store.generation = c.store.generation ∨ allowed .clear) := by
  rcases step_store step with same | ⟨operation, performed, permit⟩
  · rw [same]
    exact ⟨Nat.le_refl _, Or.inl rfl⟩
  · rw [performed, (sound.follows operation).generation]
    refine ⟨Nat.le_add_right _ _, ?_⟩
    rcases permit with permit | ⟨quiet, _⟩
    · cases operation with
      | clear => exact Or.inr permit
      | _ => exact Or.inl rfl
    · rw [quiet]
      exact Or.inl rfl

theorem steps_generation (exclusive : c.Exclusive)
    (path : Relation.ReflTransGen (Step allowed) c next) :
    c.store.generation ≤ next.store.generation ∧
      (next.store.generation = c.store.generation ∨ allowed .clear) := by
  induction path with
  | refl => exact ⟨Nat.le_refl _, Or.inl rfl⟩
  | tail path last ih =>
      obtain ⟨grows, cleared⟩ := step_generation (exclusive.steps path).sound last
      refine ⟨Nat.le_trans ih.1 grows, ?_⟩
      rcases cleared with same | permit
      · exact ih.2.imp_left same.trans
      · exact Or.inr permit

theorem steps_origin {id : SlotId} {slot : Slot Resource} (exclusive : c.Exclusive)
    (path : Relation.ReflTransGen (Step allowed) c next)
    (barred : ∀ operation resource generation, allowed operation →
      ¬ operation.Brings resource generation)
    (found : next.store.slots.get? id = some slot) :
    ∃ before, c.store.slots.get? id = some before := by
  induction path generalizing slot with
  | refl => exact ⟨slot, found⟩
  | tail path last ih =>
      rcases step_store last with same | ⟨operation, performed, permit⟩
      · exact ih (same ▸ found)
      · have follows := (exclusive.steps path).sound.follows operation
        rcases follows.origin id slot (performed ▸ found) with ⟨before, stored, _⟩ | ⟨_, brings, _⟩
        · exact ih stored
        · rcases permit with permit | ⟨_, none⟩
          · exact False.elim (barred _ _ _ permit brings)
          · exact False.elim (none _ _ brings)

/-- A lease of a slot that is new in a step is of the generation current then, and its slot is
in the store. -/
theorem step_new {id : SlotId} (sound : c.store.Sound) (step : Step allowed c next)
    (holds : next.leaseOf h = some l) (pooled : l.slot = some id) :
    (∃ h', c.leaseOf h' = some l) ∨ l.generation = c.store.generation ∧
      next.store.slots.get? id = some ⟨l.resource, l.generation, .leased⟩ := by
  cases step with
  | upkeep _ _ => exact Or.inl ⟨h, holds⟩
  | claim _ =>
      rcases holds_cases holds with ⟨_, taken⟩ | ⟨_, before⟩
      · obtain ⟨claim, claimed, rfl⟩ := Option.map_eq_some_iff.mp taken
        cases pooled
        exact Or.inr ⟨c.store.claim_generation claimed, sound.claim_stored claimed⟩
      · exact Or.inl ⟨h, before⟩
  | enter _ _ =>
      rcases holds_cases holds with ⟨_, ⟨⟩⟩ | ⟨_, before⟩
      · exact Or.inr (c.store.admitLeased_stored pooled)
      · exact Or.inl ⟨h, before⟩
  | pass exchange => exact Or.inl ⟨exchange h, holds⟩
  | giveBack _ | forget _ =>
      rcases holds_cases holds with ⟨_, ⟨⟩⟩ | ⟨_, before⟩
      exact Or.inl ⟨h, before⟩

theorem steps_new (exclusive : c.Exclusive) (path : Relation.ReflTransGen (Step allowed) c next)
    (holds : next.leaseOf h = some l) (pooled : l.slot ≠ none) :
    (∃ h', c.leaseOf h' = some l) ∨ c.store.generation ≤ l.generation := by
  obtain ⟨id, slotted⟩ := Option.ne_none_iff_exists'.mp pooled
  induction path generalizing h with
  | refl => exact Or.inl ⟨h, holds⟩
  | tail path last ih =>
      have sound := (exclusive.steps path).sound
      rcases step_new sound last holds slotted with ⟨h', before⟩ | ⟨current, _⟩
      · exact ih before
      · exact Or.inr (current ▸ (steps_generation exclusive path).1)

/-- A property of every resource in the store and on lease, with its generation. -/
structure Made (P : Nat → Resource → Prop) (c : Custody) : Prop where
  members : ∀ id slot, c.store.slots.get? id = some slot → P slot.generation slot.resource
  leases : ∀ h l, c.leaseOf h = some l → P l.generation l.resource

namespace Made

theorem mono (made : Made P c) (weaker : ∀ generation resource, P generation resource →
    Q generation resource) : Made Q c where
  members := fun id slot found => weaker _ _ (made.members id slot found)
  leases := fun h l holds => weaker _ _ (made.leases h l holds)

theorem close (made : Made P c) : Made P c.close where
  members := by simp [Custody.close]
  leases := made.leases

/-- An operation leaves members that were there, and such as it brings. -/
theorem perform (made : Made P c) (sound : c.store.Sound) (operation : Store.Operation Resource)
    (brought : ∀ resource generation, operation.Brings resource generation →
      P generation resource) :
    ∀ id slot, (c.store.perform operation).2.slots.get? id = some slot →
      P slot.generation slot.resource := by
  intro id slot found
  have follows := sound.follows operation
  rcases follows.origin id slot found with ⟨before, stored, same, _⟩ | ⟨_, brings, _⟩
  · rw [same]
    exact made.members id before stored
  · have generation := (sound.perform operation).current id slot found
    rw [follows.generation, brings.clearings, Nat.add_zero] at generation
    exact generation ▸ brought _ _ brings

/-- A change of the store and of what one holder has. -/
theorem change {store : Store Resource} {given : Option Lease} (made : Made P c)
    (members : ∀ id slot, store.slots.get? id = some slot → P slot.generation slot.resource)
    (lease : ∀ l, given = some l → P l.generation l.resource) :
    Made P ⟨store, update c.leaseOf h given⟩ where
  members := members
  leases := by
    intro h' l holds
    rcases holds_cases holds with ⟨_, new⟩ | ⟨_, before⟩
    · exact lease l new
    · exact made.leases h' l before

theorem step (made : Made P c) (sound : c.store.Sound) (step : Step allowed c next)
    (brought : ∀ operation resource generation, allowed operation →
      operation.Brings resource generation → P generation resource) : Made P next := by
  cases step with
  | @upkeep operation _ permit =>
      exact ⟨made.perform sound operation fun r g => brought operation r g permit, made.leases⟩
  | claim _ =>
      refine made.change (made.perform sound .claim fun _ _ => False.elim) fun l taken => ?_
      obtain ⟨claim, claimed, rfl⟩ := Option.map_eq_some_iff.mp taken
      have stored := sound.claim_stored claimed
      exact made.perform sound .claim (fun _ _ => False.elim) _ _ stored
  | @enter _ resource generation _ permit =>
      have entry := brought _ resource generation permit ⟨rfl, rfl⟩
      refine made.change (made.perform sound _ fun r g => brought _ r g permit) ?_
      rintro _ ⟨rfl⟩
      exact entry
  | pass exchange => exact ⟨made.members, fun h => made.leases (exchange h)⟩
  | @giveBack h lease _ =>
      refine made.change ?_ (by simp)
      cases lease.slot with
      | none => exact made.members
      | some slot => exact made.perform sound (.release slot _) fun _ _ => False.elim
  | @forget h lease _ =>
      refine made.change ?_ (by simp)
      cases lease.slot with
      | none => exact made.members
      | some slot => exact made.perform sound (.remove slot) fun _ _ => False.elim

theorem steps (made : Made P c) (exclusive : c.Exclusive)
    (path : Relation.ReflTransGen (Step allowed) c next)
    (brought : ∀ operation resource generation, allowed operation →
      operation.Brings resource generation → P generation resource) : Made P next := by
  induction path with
  | refl => exact made
  | tail path last ih => exact ih.step (exclusive.steps path).sound last brought

end Made
end ResourcePool.Custody
