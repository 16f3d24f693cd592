import ResourcePool.Books.Inspect
import ResourcePool.Proofs.Store.Identity

/-! How the books may change. Everything that is done to them is made of operations of the
store, factory calls, reports, and changes that leave store, calls and journal alone. -/
namespace ResourcePool.Books
variable {b before after : Books} {lease : Lease}

/-- What somebody needs a warrant for. -/
inductive Deed where
  | operate (operation : Store.Operation Resource)
  | callFactory

/-- Changes for which all deeds are allowed. -/
inductive Changes (allowed : Deed → Prop) : Books → Books → Prop
  | trans {a b c : Books} : Changes allowed a b → Changes allowed b c → Changes allowed a c
  | aside {before after : Books} : after.store = before.store → after.calls = before.calls →
      after.journal = before.journal → Changes allowed before after
  | note (b : Books) {report : Report} : (∀ call, report ≠ .factoryCalled call) →
      Changes allowed b (b.note report)
  | operate {before after : Books} {operation : Store.Operation Resource} :
      allowed (.operate operation) → after.store = (before.store.perform operation).2 →
      after.calls = before.calls → after.journal = before.journal → Changes allowed before after
  | callFactory (b : Books) : allowed .callFactory → Changes allowed b b.callFactory.2

/-- Whether a call of the factory is on record as begun. -/
def HasBegun (b : Books) (call : Resource) : Prop :=
  ∃ entry ∈ b.journal, entry.report = .factoryCalled call

/-- Whether a slot that was opened is gone for good. -/
structure Lacks (b : Books) (id : SlotId) : Prop where
  sound : b.store.Sound
  opened : id.number < b.store.nextId
  absent : b.store.slots.get? id = none

/-- Factory calls are numbered in the order in which they begin. -/
def Numbered (b : Books) : Prop := ∀ call, b.HasBegun call ↔ call < b.calls

theorem hasBegun_note (b : Books) (report : Report) (call : Resource) :
    (b.note report).HasBegun call ↔ report = .factoryCalled call ∨ b.HasBegun call := by
  simp [HasBegun, note]

namespace Changes
variable {allowed : Deed → Prop}

theorem refl (b : Books) : Changes allowed b b := .aside rfl rfl rfl

theorem mono {permitted : Deed → Prop} (changes : Changes allowed before after)
    (weaker : ∀ deed, allowed deed → permitted deed) : Changes permitted before after := by
  induction changes with
  | trans _ _ first second => exact first.trans second
  | aside store calls journal => exact .aside store calls journal
  | note b other => exact .note b other
  | operate permit store calls journal => exact .operate (weaker _ permit) store calls journal
  | callFactory b permit => exact .callFactory b (weaker _ permit)

/-- The store has a history of allowed operations. -/
theorem history (changes : Changes allowed before after) :
    ∃ history, (∀ operation ∈ history, allowed (.operate operation)) ∧
      after.store = before.store.after history := by
  induction changes with
  | trans _ _ first second =>
      obtain ⟨early, permitted, middle⟩ := first
      obtain ⟨late, permitted', last⟩ := second
      refine ⟨early ++ late, fun operation member => ?_, ?_⟩
      · exact (List.mem_append.mp member).elim (permitted operation) (permitted' operation)
      · rw [last, middle, Store.after, Store.after, Store.after, List.foldl_append]
  | aside store _ _ => exact ⟨[], by simp, store⟩
  | note b _ => exact ⟨[], by simp, rfl⟩
  | operate permit store _ _ => exact ⟨[_], by simpa using permit, store⟩
  | callFactory b _ => exact ⟨[], by simp, rfl⟩

theorem store_eq (changes : Changes (fun _ => False) before after) :
    after.store = before.store := by
  obtain ⟨history, permitted, store⟩ := changes.history
  cases history with
  | nil => exact store
  | cons operation _ => exact False.elim (permitted operation List.mem_cons_self)

theorem sound (changes : Changes allowed before after) (sound : before.store.Sound) :
    after.store.Sound := by
  obtain ⟨history, _, store⟩ := changes.history
  exact store ▸ sound.after history

theorem lacks {id : SlotId} (changes : Changes allowed before after) (lacks : before.Lacks id) :
    after.Lacks id := by
  obtain ⟨history, _, store⟩ := changes.history
  refine ⟨changes.sound lacks.sound, ?_, ?_⟩
  · exact store ▸ Nat.lt_of_lt_of_le lacks.opened (lacks.sound.nextId_le_after history)
  · exact store ▸ lacks.sound.get?_after_eq_none lacks.absent lacks.opened history

/-- Where nothing but one slot may be removed, and that only on a condition, all other slots
stay. -/
theorem removes {slot : SlotId} {condition : Prop}
    (changes : Changes (fun deed => condition ∧ deed = .operate (.remove slot)) before after)
    (id : SlotId) : after.store.slots.get? id = before.store.slots.get? id ∨
      condition ∧ id = slot ∧ after.store.slots.get? id = none := by
  induction changes with
  | trans _ _ first second =>
      rcases second with same | removed
      · rw [same]
        exact first
      · exact Or.inr removed
  | aside store _ _ => exact Or.inl (by rw [store])
  | @operate before after operation permit store _ _ =>
      obtain ⟨holds, ⟨⟩⟩ := permit
      by_cases own : id = slot
      · subst own
        exact Or.inr ⟨holds, rfl, store ▸ before.store.get?_remove id⟩
      · exact Or.inl (store ▸ before.store.get?_remove_of_ne own)
  | note | callFactory => exact Or.inl rfl

theorem calls_le (changes : Changes allowed before after) : before.calls ≤ after.calls := by
  induction changes with
  | trans _ _ first second => exact Nat.le_trans first second
  | aside _ calls _ | operate _ _ calls _ => exact Nat.le_of_eq calls.symm
  | note b _ => exact Nat.le_refl _
  | callFactory b _ => exact Nat.le_succ _

theorem calls_eq (changes : Changes allowed before after) (quiet : ¬ allowed .callFactory) :
    after.calls = before.calls := by
  induction changes with
  | trans _ _ first second => exact second.trans first
  | aside _ calls _ | operate _ _ calls _ => exact calls
  | note b _ => rfl
  | callFactory b permit => exact False.elim (quiet permit)

theorem numbered (changes : Changes allowed before after) (numbered : before.Numbered) :
    after.Numbered := by
  induction changes with
  | trans _ _ first second => exact second (first numbered)
  | aside _ calls journal | operate _ _ calls journal =>
      simpa only [Numbered, HasBegun, calls, journal] using numbered
  | note b other =>
      intro call
      rw [hasBegun_note, numbered call]
      exact or_iff_right (other call)
  | callFactory b _ =>
      intro call
      have begun : ({ b with calls := b.calls + 1 } : Books).HasBegun call ↔ call < b.calls :=
        numbered call
      have next : ∀ m n : Nat, m = n ∨ n < m ↔ n < m + 1 := by omega
      simp only [Books.callFactory, hasBegun_note, begun, Report.factoryCalled.injEq]
      exact next b.calls call

end Changes

/-! ## Operations of callers -/

section
variable {allowed : Deed → Prop}

theorem Changes.tell (b : Books) (event : Event) : Changes allowed b (b.tell event) :=
  .note b fun _ => by simp

theorem Changes.count (b : Books) (counter : Counter) (amount : Nat) :
    Changes allowed b (b.count counter amount) := .aside rfl rfl rfl

theorem Changes.take (b : Books) (resource : Resource) : Changes allowed b (b.take resource) :=
  .aside rfl rfl rfl

theorem Changes.letGo (b : Books) (resource : Resource) : Changes allowed b (b.letGo resource) :=
  .aside rfl rfl rfl

theorem letGoAll_aside (b : Books) (resources : List Resource) :
    (b.letGoAll resources).store = b.store ∧ (b.letGoAll resources).calls = b.calls ∧
      (b.letGoAll resources).journal = b.journal := by
  induction resources generalizing b with
  | nil => exact ⟨rfl, rfl, rfl⟩
  | cons resource rest ih => exact ih (b.letGo resource)

theorem takeAll_aside (b : Books) (resources : List Resource) :
    (b.takeAll resources).store = b.store ∧ (b.takeAll resources).calls = b.calls ∧
      (b.takeAll resources).journal = b.journal := by
  induction resources generalizing b with
  | nil => exact ⟨rfl, rfl, rfl⟩
  | cons resource rest ih => exact ih (b.take resource)

theorem Changes.letGoAll (b : Books) (resources : List Resource) :
    Changes allowed b (b.letGoAll resources) := by
  obtain ⟨store, calls, journal⟩ := b.letGoAll_aside resources
  exact .aside store calls journal

theorem Changes.takeAll (b : Books) (resources : List Resource) :
    Changes allowed b (b.takeAll resources) := by
  obtain ⟨store, calls, journal⟩ := b.takeAll_aside resources
  exact .aside store calls journal

theorem store_clear (b : Books) : b.clear.store = b.store.clear.2 := (letGoAll_aside _ _).1

/-- A clearing at any point of a stretch starts a later generation. -/
theorem Changes.generation_lt {b : Books} (sound : b.store.Sound) (early : Changes allowed b before)
    (late : Changes allowed before.clear after) : b.store.generation < after.store.generation := by
  obtain ⟨first, _, middle⟩ := early.history
  obtain ⟨rest, _, last⟩ := late.history
  have reached := sound.generation_le_after first
  have grows := (Store.Sound.clear before.store).generation_le_after rest
  rw [← middle] at reached
  rw [store_clear] at last
  rw [← last] at grows
  exact Nat.lt_of_le_of_lt reached grows

theorem Changes.clear (b : Books) (permit : allowed (.operate .clear)) :
    Changes allowed b b.clear := by
  have cleared : Changes allowed b ({ b with store := b.store.clear.2 }.count .clears 1) :=
    .operate permit rfl rfl rfl
  exact (cleared.trans (.tell _ _)).trans (.letGoAll _ _)

theorem store_release (b : Books) (lease : Lease) : (b.release lease).store =
    lease.slot.elim b.store fun slot => (b.store.release slot lease.generation).2 := by
  unfold release
  cases lease.slot with
  | none => rfl
  | some slot =>
      rcases released : b.store.release slot lease.generation with ⟨outcome, store⟩
      cases outcome <;> simp only [released, Option.elim_some] <;> rfl

theorem Changes.release (b : Books) (lease : Lease)
    (permit : ∀ slot, lease.slot = some slot →
      allowed (.operate (.release slot lease.generation))) :
    Changes allowed b (b.release lease) := by
  unfold Books.release
  cases pooled : lease.slot with
  | none => exact ((Changes.count b _ _).trans (.tell _ _)).trans (.letGo _ _)
  | some slot =>
      have handed : Changes allowed b
          { b with store := (b.store.release slot lease.generation).2 } :=
        .operate (permit slot pooled) rfl rfl rfl
      rcases released : b.store.release slot lease.generation with ⟨outcome, store⟩
      rw [released] at handed
      simp only [released]
      cases outcome with
      | recycled => exact (handed.trans (.count _ _ _)).trans (.letGo _ _)
      | discarded => exact ((handed.trans (.count _ _ _)).trans (.tell _ _)).trans (.letGo _ _)

theorem store_remove (b : Books) (slot : SlotId) :
    (b.remove slot).2.store = (b.store.remove slot).2 := by
  rcases Store.remove_cases b.store slot with ⟨_, removed⟩ | ⟨_, _, removed⟩
  · simp only [Books.remove, removed]
  · simp only [Books.remove, removed, letGo]

theorem remove_lacks {slot : SlotId} (sound : b.store.Sound)
    (opened : slot.number < b.store.nextId) : (b.remove slot).2.Lacks slot := by
  have follows := sound.follows (.remove slot)
  constructor <;> rw [store_remove]
  · exact sound.remove slot
  · exact Nat.lt_of_lt_of_le opened follows.nextId
  · exact b.store.get?_remove slot

theorem Changes.remove (b : Books) (slot : SlotId) (permit : allowed (.operate (.remove slot))) :
    Changes allowed b (b.remove slot).2 := by
  refine .operate permit (b.store_remove slot) ?_ ?_ <;>
    rcases Store.remove_cases b.store slot with ⟨_, removed⟩ | ⟨_, _, removed⟩ <;>
    simp only [Books.remove, removed] <;> rfl

theorem store_forget (b : Books) (lease : Lease) : (b.forget lease).store =
    lease.slot.elim b.store fun slot => (b.store.remove slot).2 := by
  unfold forget
  cases lease.slot with
  | none => rfl
  | some slot => exact b.store_remove slot

theorem Changes.forget (b : Books) (lease : Lease)
    (permit : ∀ slot, lease.slot = some slot → allowed (.operate (.remove slot))) :
    Changes allowed b (b.forget lease) := by
  unfold Books.forget
  cases pooled : lease.slot with
  | none => exact .refl b
  | some slot => exact .remove b slot (permit slot pooled)

theorem store_erase (b : Books) (lease : Lease) : (b.erase lease).store =
    lease.slot.elim b.store fun slot => (b.store.remove slot).2 := by
  simp only [erase, letGo, store_forget]
  cases lease.slot <;> rfl

theorem erase_lacks {lease : Lease} {slot : SlotId} (sound : b.store.Sound)
    (opened : slot.number < b.store.nextId) (pooled : lease.slot = some slot) :
    (b.erase lease).Lacks slot := by
  have removed : (b.erase lease).store = (b.remove slot).2.store := by
    rw [store_erase, store_remove, pooled, Option.elim_some]
  obtain ⟨sound, opened, absent⟩ := remove_lacks sound opened
  exact ⟨removed ▸ sound, removed ▸ opened, removed ▸ absent⟩

theorem Changes.erase (b : Books) (lease : Lease)
    (permit : ∀ slot, lease.slot = some slot → allowed (.operate (.remove slot))) :
    Changes allowed b (b.erase lease) := by
  have erased {told : Books} (changes : Changes allowed b told) :
      Changes allowed b (((told.count .evicted 1).forget lease).letGo lease.resource) :=
    ((changes.trans (.count _ .evicted 1)).trans (.forget _ lease permit)).trans (.letGo _ _)
  unfold Books.erase
  refine erased ?_
  cases lease.slot with
  | none => exact .refl b
  | some slot => exact .tell b _

theorem store_claim (b : Books) : b.claim.2.store = b.store.claim.2 := by
  unfold Books.claim
  rcases b.store.claim with ⟨_ | _, _⟩ <;> rfl

theorem Changes.claim (b : Books) (permit : allowed (.operate .claim)) :
    Changes allowed b b.claim.2 := by
  refine .operate permit b.store_claim ?_ ?_ <;>
    unfold Books.claim <;> rcases b.store.claim with ⟨_ | _, _⟩ <;> rfl

theorem Changes.endCall (b : Books) (call : Resource) (supply : Supply) :
    Changes allowed b (b.endCall call supply) := by
  have noted : Changes allowed b (b.note (.factoryEnded call supply)) := .note b fun _ => by simp
  cases supply with
  | made => exact noted.trans (.take _ _)
  | failed | panicked => exact noted

end
end ResourcePool.Books
