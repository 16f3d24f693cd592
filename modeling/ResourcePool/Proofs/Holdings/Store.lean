import Mathlib.Algebra.BigOperators.Group.Multiset.Basic
import Mathlib.Data.Multiset.Filter
import ResourcePool.Proofs.Store.Sound

/-! What a store holds, as a multiset. Every operation says what comes in and what goes out;
claiming and releasing a slot move nothing. -/
namespace ResourcePool

namespace Table
variable {κ α M : Type} [AddCommMonoid M]

/-- What the values of a table amount to. -/
def total (f : α → M) (t : Table κ α) : M := (t.values.map f).sum

@[simp] theorem total_empty (f : α → M) : ({} : Table κ α).total f = 0 := rfl

/-- What is kept once for each value. -/
theorem total_singleton {β : Type} (f : α → β) (t : Table κ α) :
    t.total (fun a => ({f a} : Multiset β)) = t.values.map f := by
  simp only [total]
  induction t.values with
  | nil => rfl
  | cons a rest ih =>
      rw [List.map_cons, List.map_cons, List.sum_cons, ih]
      rfl

variable [DecidableEq κ] {t : Table κ α} {k : κ} {a : α}

/-- Setting a key puts what it has in the place of what it had, if it had anything. -/
theorem total_set (t : Table κ α) (f : α → M) (k : κ) (a : α) :
    ∃ others, t.total f = (t.get? k).elim 0 f + others ∧ (t.set k a).total f = f a + others := by
  cases found : t.get? k with
  | none =>
      refine ⟨t.total f, (zero_add _).symm, ?_⟩
      simp only [total, values_set_of_absent found, List.map_append, List.sum_append,
        List.map_cons, List.map_nil, List.sum_singleton]
      exact add_comm ..
  | some old =>
      obtain ⟨before, after, earlier, later⟩ := values_set found a
      refine ⟨(before.map f).sum + (after.map f).sum, ?_, ?_⟩ <;>
        simp only [total, earlier, later, Option.elim_some, List.map_append, List.map_cons,
          List.sum_append, List.sum_cons] <;>
        exact add_left_comm ..

theorem total_set_of_absent (f : α → M) (absent : t.get? k = none) (a : α) :
    (t.set k a).total f = f a + t.total f := by
  obtain ⟨others, before, after⟩ := t.total_set f k a
  rw [absent, Option.elim_none, zero_add] at before
  rw [after, before]

theorem total_erase (f : α → M) (distinct : t.keys.Nodup) (found : t.get? k = some a) :
    t.total f = f a + (t.erase k).total f := by
  obtain ⟨rows⟩ := t
  induction rows with
  | nil => contradiction
  | cons row rest ih =>
      obtain ⟨absent, distinct⟩ := List.nodup_cons.mp distinct
      rw [get?_cons] at found
      have first : (⟨row :: rest⟩ : Table κ α).total f =
          f row.2 + (⟨rest⟩ : Table κ α).total f := List.sum_cons
      by_cases same : row.1 = k
      · rw [if_pos same] at found
        cases found
        have none : ∀ other ∈ rest, other.1 ≠ k := fun other member own =>
          absent (same ▸ own ▸ List.mem_map_of_mem member)
        have erased : (⟨row :: rest⟩ : Table κ α).erase k = ⟨rest⟩ := by
          simp only [erase, List.filter_cons, same, ne_eq, not_true_eq_false, decide_false,
            Bool.false_eq_true, if_false, Table.mk.injEq]
          exact List.filter_eq_self.mpr fun other member => by simp [none other member]
        rw [first, erased]
      · rw [if_neg same] at found
        have erased : ((⟨row :: rest⟩ : Table κ α).erase k).total f =
            f row.2 + ((⟨rest⟩ : Table κ α).erase k).total f := by
          simp only [erase, List.filter_cons, same, ne_eq, not_false_eq_true, decide_true, if_true]
          exact List.sum_cons
        rw [first, erased, ih distinct found]
        exact add_left_comm ..

end Table

namespace Store
variable {α : Type} {s : Store α} {id : SlotId} {slot : Slot α}

/-- The resources of all slots. -/
def holdings (s : Store α) : Multiset α := s.slots.total fun slot => {slot.resource}

theorem coe_members (s : Store α) : (s.members : Multiset α) = s.holdings :=
  (Table.total_singleton Slot.resource s.slots).symm

/-- What is kept under a slot does not change with its status. -/
theorem total_restatus (found : s.slots.get? id = some slot) (status : SlotStatus) :
    (s.slots.set id { slot with status }).total (fun slot => ({slot.resource} : Multiset α)) =
      s.holdings := by
  obtain ⟨others, before, after⟩ :=
    s.slots.total_set (fun slot => ({slot.resource} : Multiset α)) id { slot with status }
  rw [found] at before
  exact after.trans before.symm

theorem holdings_insert (sound : s.Sound) (resource : α) (status : SlotStatus) :
    (s.insert resource status).2.holdings = {resource} + s.holdings :=
  Table.total_set_of_absent _ sound.unopened _

theorem holdings_insertAll (sound : s.Sound) (resources : List α) :
    (s.insertAll resources).holdings = resources + s.holdings := by
  induction resources generalizing s with
  | nil => exact (zero_add _).symm
  | cons resource rest ih =>
      have inserted := ih (sound.insert resource .available)
      rw [holdings_insert sound] at inserted
      rw [← Multiset.cons_coe, ← Multiset.singleton_add, add_assoc, add_left_comm]
      exact inserted

theorem holdings_admitAvailable {resources : List α} {generation : Nat} {admitted : Store α}
    (sound : s.Sound) (accepted : s.admitAvailable resources generation = some admitted) :
    admitted.holdings = resources + s.holdings := by
  unfold admitAvailable at accepted
  split at accepted
  · cases accepted
    exact holdings_insertAll sound resources
  · contradiction

theorem holdings_admitLeased (sound : s.Sound) (resource : α) (generation : Nat) :
    (s.admitLeased resource generation).2.holdings =
      (s.admitLeased resource generation).1.elim 0 (fun _ => {resource}) + s.holdings := by
  unfold admitLeased
  split
  · exact holdings_insert sound resource .leased
  · exact (zero_add _).symm

theorem holdings_claim (sound : s.Sound) : s.claim.2.holdings = s.holdings := by
  obtain ⟨_, claimed⟩ | ⟨queue, id, slot, _, found, _, claimed⟩ := sound.claim_cases
  · rw [claimed]
  · rw [claimed]
    exact total_restatus found .leased

theorem holdings_release (s : Store α) (id : SlotId) (generation : Nat) :
    (s.release id generation).2.holdings = s.holdings := by
  obtain ⟨slot, _, found, _, _, released⟩ | ⟨_, released⟩ := release_cases s id generation
  · rw [released]
    exact total_restatus found .available
  · rw [released]

theorem holdings_remove (sound : s.Sound) (id : SlotId) :
    s.holdings = (s.remove id).1.elim 0 (fun resource => {resource}) +
      (s.remove id).2.holdings := by
  obtain ⟨_, removed⟩ | ⟨slot, found, removed⟩ := remove_cases s id
  · rw [removed]
    exact (zero_add _).symm
  · rw [removed]
    exact Table.total_erase _ sound.keys_distinct found

theorem holdings_eraseAll {ids : List SlotId} {slots : Table SlotId (Slot α)}
    (keys : slots.keys.Nodup) (distinct : ids.Nodup)
    (known : ∀ id ∈ ids, ∃ slot, slots.get? id = some slot) :
    slots.total (fun slot => ({slot.resource} : Multiset α)) =
      ↑(ids.filterMap fun id => (slots.get? id).map Slot.resource) +
        (slots.eraseAll ids).total fun slot => {slot.resource} := by
  induction ids generalizing slots with
  | nil => exact (zero_add _).symm
  | cons id rest ih =>
      obtain ⟨absent, distinct⟩ := List.nodup_cons.mp distinct
      obtain ⟨slot, found⟩ := known id List.mem_cons_self
      have kept : ∀ other ∈ rest, (slots.erase id).get? other = slots.get? other := by
        intro other member
        have different : id ≠ other := fun same => absent (same ▸ member)
        rw [Table.get?_erase, if_neg different]
      have erased := ih (Table.nodup_keys_erase keys id) distinct fun other member =>
        kept other member ▸ known other (List.mem_cons_of_mem _ member)
      rw [List.filterMap_congr fun other member => congrArg (Option.map _) (kept other member)]
        at erased
      rw [Table.total_erase _ keys found, erased, List.filterMap_cons]
      simp only [found, Option.map_some, ← Multiset.cons_coe, ← Multiset.singleton_add, add_assoc]
      rfl

/-- What is disposed of is what the store does not hold any more. -/
theorem holdings_dispose (sound : s.Sound) (count : Nat) :
    s.holdings = ↑(s.dispose count).1 + (s.dispose count).2.holdings := by
  rw [sound.dispose_eq]
  refine holdings_eraseAll sound.keys_distinct
    (sound.queue_distinct.sublist (List.take_sublist _ _)) fun id member => ?_
  obtain ⟨slot, found, _⟩ := sound.queued (List.mem_of_mem_take member)
  exact ⟨slot, found⟩

theorem holdings_clear (s : Store α) : s.clear.2.holdings = 0 := Table.total_empty _

end Store
end ResourcePool
