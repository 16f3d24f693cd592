import ResourcePool.Proofs.Store.Identity

/-! The order in which slots became available. Every arrival in the queue gets a stamp, and a
slot that is recycled gets a new one; the queue is always in the order of the stamps. Hence
claims take the slot that arrived last, and disposing takes those that arrived first. -/
namespace ResourcePool.Store
variable {α : Type} {s : Store α} {id : SlotId}

/-- The slots that become available by an operation, in their order: those of a batch that
is taken in, and one that is recycled. -/
def arrivals (s : Store α) (operation : Operation α) : List SlotId :=
  match operation, (s.perform operation).1 with
  | .admitAvailable .., .admitted count => (List.range count).map fun i => ⟨s.nextId + i⟩
  | .release slot _, .released .recycled => [slot]
  | _, _ => []

/-- All arrivals of a history, the oldest first. -/
def arrivalsAlong (s : Store α) : List (Operation α) → List SlotId
  | [] => []
  | operation :: rest => s.arrivals operation ++ (s.perform operation).2.arrivalsAlong rest

/-- The number of the last arrival of a slot, counted from one, or zero without any. -/
def stamp (arrived : List SlotId) (id : SlotId) : Nat :=
  arrived.length - arrived.reverse.idxOf id

/-- Slots in the order of their last arrivals. -/
def InOrder (arrived queue : List SlotId) : Prop :=
  queue.Pairwise fun a b => stamp arrived a < stamp arrived b

/-- A claim fails on an empty queue only, and else takes the slot that arrived last. -/
def ClaimsNewest (arrived : List SlotId) (s : Store α) : Prop :=
  (s.available = [] ∧ s.claim.1 = none) ∨
  ∃ taken, s.claim.1 = some taken ∧ taken.slot ∈ s.available ∧
    (s.slots.get? taken.slot).map Slot.resource = some taken.resource ∧
    ∀ other ∈ s.available, other ≠ taken.slot → stamp arrived other < stamp arrived taken.slot

/-- Disposing takes as many slots as it is told and as there are, those that arrived first, in
their order, and keeps the others: none arrived after one that is kept. -/
def DisposesOldest (arrived : List SlotId) (s : Store α) (count : Nat) : Prop :=
  ∃ taken kept, s.available = taken ++ kept ∧
    taken.length = min count s.available.length ∧
    (s.dispose count).1.map some = taken.map (fun id => (s.slots.get? id).map Slot.resource) ∧
    (∀ id ∈ taken, (s.dispose count).2.slots.get? id = none) ∧
    (s.dispose count).2.available = kept ∧
    InOrder arrived taken ∧ ∀ a ∈ taken, ∀ b ∈ kept, stamp arrived a < stamp arrived b

section Stamps
variable {arrived new queue : List SlotId}

theorem stamp_le_length (arrived : List SlotId) (id : SlotId) : stamp arrived id ≤ arrived.length :=
  Nat.sub_le ..

theorem stamp_concat_self (arrived : List SlotId) (id : SlotId) :
    stamp (arrived ++ [id]) id = arrived.length + 1 := by
  rw [stamp, List.reverse_append, List.reverse_singleton, List.singleton_append,
    List.idxOf_cons_self, List.length_append, List.length_singleton, Nat.sub_zero]

theorem stamp_concat_of_ne {last : SlotId} (arrived : List SlotId) (different : last ≠ id) :
    stamp (arrived ++ [last]) id = stamp arrived id := by
  rw [stamp, List.reverse_append, List.reverse_singleton, List.singleton_append,
    List.idxOf_cons_ne _ different, List.length_append, List.length_singleton,
    Nat.succ_sub_succ, stamp]

theorem InOrder.sublist {part : List SlotId} (ordered : InOrder arrived queue)
    (sublist : part.Sublist queue) : InOrder arrived part :=
  List.Pairwise.sublist sublist ordered

/-- A slot that arrives comes after all that are there. -/
theorem InOrder.concat (ordered : InOrder arrived queue) (absent : id ∉ queue) :
    InOrder (arrived ++ [id]) (queue ++ [id]) := by
  have kept : ∀ a ∈ queue, stamp (arrived ++ [id]) a = stamp arrived a := fun a member =>
    stamp_concat_of_ne arrived (ne_of_mem_of_not_mem member absent).symm
  refine List.pairwise_append.mpr ⟨?_, List.pairwise_singleton .., ?_⟩
  · exact List.Pairwise.imp_of_mem
      (fun {a b} ha hb below => by rwa [kept a ha, kept b hb]) ordered
  · intro a member b last
    rw [List.mem_singleton.mp last, kept a member, stamp_concat_self]
    exact Nat.lt_succ_of_le (stamp_le_length ..)

theorem InOrder.append (ordered : InOrder arrived queue) (distinct : (queue ++ new).Nodup) :
    InOrder (arrived ++ new) (queue ++ new) := by
  induction new generalizing arrived queue with
  | nil => simpa only [List.append_nil] using ordered
  | cons id rest ih =>
      rw [List.append_cons] at distinct
      have absent : id ∉ queue := fun member =>
        (List.nodup_append.mp distinct.of_append_left).2.2 id member id
          (List.mem_singleton_self id) rfl
      simpa only [List.append_assoc, List.singleton_append] using
        ih (ordered.concat absent) distinct

end Stamps

/-- A batch that is taken in opens one slot after another. -/
theorem get?_insertAll {resources : List α} {i : Nat} {resource : α}
    (brought : resources[i]? = some resource) (s : Store α) :
    (s.insertAll resources).slots.get? ⟨s.nextId + i⟩ =
      some ⟨resource, s.generation, .available⟩ := by
  induction resources generalizing s i with
  | nil => contradiction
  | cons first rest ih =>
      obtain ⟨_, _, kept, _⟩ := insertAll_spec (s.insert first .available).2 rest
      cases i with
      | zero =>
          cases brought
          exact kept _ _ (Table.get?_set_self ..) (Nat.lt_succ_self _)
      | succ i =>
          have later := ih brought (s.insert first .available).2
          rwa [show (s.insert first .available).2.nextId + i = s.nextId + (i + 1) from
            Nat.succ_add_eq_add_succ ..] at later

/-- The arrivals of a batch are its resources' slots, one after another. -/
theorem arrivals_batch {resources : List α} {i : Nat} {resource : α}
    (brought : resources[i]? = some resource) (s : Store α) :
    ∃ id, (s.arrivals (.admitAvailable resources s.generation))[i]? = some id ∧
      (s.perform (.admitAvailable resources s.generation)).2.slots.get? id =
        some ⟨resource, s.generation, .available⟩ := by
  obtain ⟨inside, _⟩ := List.getElem?_eq_some_iff.mp brought
  refine ⟨⟨s.nextId + i⟩, ?_, ?_⟩
  · simp [arrivals, perform, admitAvailable, inside]
  · simpa [perform, admitAvailable] using get?_insertAll brought s

namespace Sound

/-- An operation either appends its arrivals to the queue, or there are none and the queue
only loses slots. -/
theorem queue_cases (sound : s.Sound) (operation : Operation α) :
    (s.perform operation).2.available = s.available ++ s.arrivals operation ∨
      s.arrivals operation = [] ∧ (s.perform operation).2.available.Sublist s.available := by
  cases operation with
  | admitLeased resource generation =>
      refine Or.inr ⟨rfl, ?_⟩
      simp only [Store.perform, Store.admitLeased]
      split
      · exact List.Sublist.refl _
      · exact List.Sublist.refl _
  | admitAvailable resources generation =>
      by_cases fresh : generation = s.generation
      · refine Or.inl ?_
        simp only [arrivals, Store.perform, Store.admitAvailable, fresh, if_true]
        exact s.available_insertAll resources
      · refine Or.inr ?_
        simp [arrivals, Store.perform, Store.admitAvailable, fresh]
  | claim =>
      refine Or.inr ⟨rfl, ?_⟩
      rcases sound.claim_cases with ⟨_, claimed⟩ | ⟨queue, id, slot, concat, _, _, claimed⟩
      · simp only [Store.perform, claimed]
        exact List.Sublist.refl _
      · simp only [Store.perform, claimed, concat]
        exact List.sublist_append_left ..
  | release id generation =>
      rcases release_cases s id generation with ⟨slot, _, _, _, _, released⟩ | ⟨_, released⟩
      · exact Or.inl (by simp only [arrivals, Store.perform, released])
      · exact Or.inr (by simp [arrivals, Store.perform, released])
  | remove id =>
      refine Or.inr ⟨rfl, ?_⟩
      rcases remove_cases s id with ⟨_, removed⟩ | ⟨slot, _, removed⟩
      · simp only [Store.perform, removed]
        exact List.Sublist.refl _
      · simp only [Store.perform, removed]
        split
        · exact List.filter_sublist
        · exact List.Sublist.refl _
  | dispose count =>
      refine Or.inr ⟨rfl, ?_⟩
      simp only [Store.perform, sound.dispose_eq]
      exact List.drop_sublist ..
  | clear => exact Or.inr ⟨rfl, List.nil_sublist _⟩
  | lockAvailable | availableIds | members => exact Or.inr ⟨rfl, List.Sublist.refl _⟩

/-- What is in the queue was there or has arrived. -/
theorem available_sublist (sound : s.Sound) (operation : Operation α) :
    (s.perform operation).2.available.Sublist (s.available ++ s.arrivals operation) := by
  rcases sound.queue_cases operation with appended | ⟨none, lost⟩
  · rw [appended]
  · rwa [none, List.append_nil]

theorem nodup_arrivals (sound : s.Sound) (operation : Operation α) :
    (s.available ++ s.arrivals operation).Nodup := by
  rcases sound.queue_cases operation with appended | ⟨none, _⟩
  · exact appended ▸ (sound.perform operation).queue_distinct
  · rw [none, List.append_nil]
    exact sound.queue_distinct

/-- The arrivals of an operation are the slots that are available only after it. -/
theorem mem_arrivals_iff (sound : s.Sound) (operation : Operation α) (id : SlotId) :
    id ∈ s.arrivals operation ↔ id ∈ (s.perform operation).2.available ∧ id ∉ s.available := by
  have distinct := sound.nodup_arrivals operation
  rcases sound.queue_cases operation with appended | ⟨none, lost⟩
  · rw [appended, List.mem_append]
    have apart := (List.nodup_append.mp distinct).2.2
    constructor
    · exact fun arrived => ⟨Or.inr arrived, fun queued => apart id queued id arrived rfl⟩
    · rintro ⟨queued | arrived, absent⟩
      · exact absurd queued absent
      · exact arrived
  · rw [none]
    constructor
    · exact fun arrived => absurd arrived List.not_mem_nil
    · exact fun ⟨left, absent⟩ => absurd (lost.subset left) absent

theorem inOrder_after {arrived : List SlotId} (sound : s.Sound)
    (ordered : InOrder arrived s.available) (history : List (Operation α)) :
    InOrder (arrived ++ s.arrivalsAlong history) (s.after history).available := by
  induction history generalizing s arrived with
  | nil =>
      rw [arrivalsAlong, List.append_nil]
      exact ordered
  | cons operation rest ih =>
      have next := (ordered.append (sound.nodup_arrivals operation)).sublist
        (sound.available_sublist operation)
      rw [arrivalsAlong, ← List.append_assoc]
      exact ih (sound.perform operation) next

theorem arrived_after (sound : s.Sound) (history : List (Operation α)) {id : SlotId}
    (queued : id ∈ (s.after history).available) :
    id ∈ s.available ++ s.arrivalsAlong history := by
  induction history generalizing s with
  | nil => exact List.mem_append_left _ queued
  | cons operation rest ih =>
      rw [arrivalsAlong, ← List.append_assoc]
      rcases List.mem_append.mp (ih (sound.perform operation) queued) with left | later
      · exact List.mem_append_left _ ((sound.available_sublist operation).subset left)
      · exact List.mem_append_right _ later

section InOrder
variable {arrived : List SlotId} (sound : s.Sound) (ordered : InOrder arrived s.available)
include sound ordered

theorem claimsNewest : s.ClaimsNewest arrived := by
  rcases sound.claim_cases with ⟨idle, claimed⟩ | ⟨queue, id, slot, concat, found, _, claimed⟩
  · exact Or.inl ⟨idle, congrArg Prod.fst claimed⟩
  · refine Or.inr ⟨_, congrArg Prod.fst claimed, ?_, congrArg _ found, ?_⟩
    · exact concat ▸ List.mem_append_right _ (List.mem_singleton_self id)
    · intro other member different
      rw [concat] at ordered member
      have earlier : other ∈ queue := (List.mem_append.mp member).resolve_right fun last =>
        different (List.mem_singleton.mp last)
      exact (List.pairwise_append.mp ordered).2.2 other earlier id (List.mem_singleton_self id)

theorem disposesOldest (count : Nat) : s.DisposesOldest arrived count := by
  have split := List.take_append_drop count s.available
  obtain ⟨increasing, _, below⟩ := List.pairwise_append.mp (split.symm ▸ ordered)
  refine ⟨s.available.take count, s.available.drop count, split.symm, List.length_take, ?_, ?_,
    ?_, increasing, below⟩
  · rw [sound.dispose_eq, List.map_filterMap_some_eq_filter_map_isSome, List.filter_eq_self]
    intro found member
    obtain ⟨id, queued, rfl⟩ := List.mem_map.mp member
    obtain ⟨slot, stored, _⟩ := sound.queued (List.mem_of_mem_take queued)
    rw [stored]
    rfl
  · intro id member
    rw [sound.dispose_eq, Table.get?_eraseAll, if_pos member]
  · rw [sound.dispose_eq]

end InOrder
end Sound

/-- After any history the queue holds the available slots in the order in which they last became
available: a claim takes the one that did so last, and disposing takes those that did so first. -/
theorem idle_in_order (history : List (Operation α)) :
    let s := ({} : Store α).after history
    let arrived := ({} : Store α).arrivalsAlong history
    InOrder arrived s.available ∧ s.available ⊆ arrived ∧
    (∀ id, id ∈ s.available ↔ ∃ slot, s.slots.get? id = some slot ∧ slot.status = .available) ∧
    (∀ operation id, id ∈ s.arrivals operation ↔
      id ∈ (s.perform operation).2.available ∧ id ∉ s.available) ∧
    (∀ (resources : List α) (i : Nat) resource, resources[i]? = some resource →
      ∃ id, (s.arrivals (.admitAvailable resources s.generation))[i]? = some id ∧
        (s.perform (.admitAvailable resources s.generation)).2.slots.get? id =
          some ⟨resource, s.generation, .available⟩) ∧
    s.ClaimsNewest arrived ∧ ∀ count, s.DisposesOldest arrived count := by
  intro s arrived
  have sound : s.Sound := Sound.empty.after history
  have ordered : InOrder ([] ++ arrived) s.available :=
    Sound.empty.inOrder_after List.Pairwise.nil history
  rw [List.nil_append] at ordered
  have known : s.available ⊆ arrived := fun _ queued => Sound.empty.arrived_after history queued
  exact ⟨ordered, known, sound.mem_queue_iff, sound.mem_arrivals_iff,
    fun _ _ _ brought => arrivals_batch brought s, sound.claimsNewest ordered,
    sound.disposesOldest ordered⟩

/-- Two slots are claimed and come back in the other order: the one that was there before them
is disposed of first, and the last one to come back is claimed first. -/
theorem idle_in_order_recycled :
    let history : List (Operation Nat) :=
      [.admitAvailable [10, 11, 12] 0, .claim, .claim, .release ⟨2⟩ 0, .release ⟨1⟩ 0]
    let s := ({} : Store Nat).after history
    let arrived := ({} : Store Nat).arrivalsAlong history
    arrived.map SlotId.number = [0, 1, 2, 2, 1] ∧ stamp arrived ⟨2⟩ < stamp arrived ⟨1⟩ ∧
    s.ClaimsNewest arrived ∧ s.claim.1 = some ⟨⟨1⟩, 11, 0⟩ ∧
    s.DisposesOldest arrived 2 ∧ (s.dispose 2).1 = [10, 12] := by
  intro history s arrived
  obtain ⟨_, _, _, _, _, newest, oldest⟩ := idle_in_order history
  exact ⟨by decide, by decide, newest, by decide, oldest 2, by decide⟩

end ResourcePool.Store
