import ResourcePool.Metrics.Basic
import ResourcePool.Proofs.Table
import ResourcePool.Store.Operation

/-! A sound store says the same thing twice: its queue holds exactly the slots whose
status is available, each once. Every operation keeps this, whatever slots and
generations it is called with. -/
namespace ResourcePool.Store
variable {α : Type} {s : Store α} {id : SlotId} {slot : Slot α}

structure Sound (s : Store α) : Prop where
  keys_distinct : s.slots.keys.Nodup
  queue_distinct : s.available.Nodup
  mem_queue_iff : ∀ id, id ∈ s.available ↔
    ∃ slot, s.slots.get? id = some slot ∧ slot.status = .available
  current : ∀ id slot, s.slots.get? id = some slot → slot.generation = s.generation
  opened : ∀ id slot, s.slots.get? id = some slot → id.number < s.nextId

namespace Sound

theorem emptied (s : Store α) : ({ s with slots := {}, available := [] } : Store α).Sound where
  keys_distinct := List.nodup_nil
  queue_distinct := List.nodup_nil
  mem_queue_iff := by simp
  current := by simp
  opened := by simp

theorem empty : ({} : Store α).Sound := emptied {}

theorem queued (sound : s.Sound) (member : id ∈ s.available) :
    ∃ slot, s.slots.get? id = some slot ∧ slot.status = .available :=
  (sound.mem_queue_iff id).mp member

theorem unqueued {slot : Slot α} (sound : s.Sound) (found : s.slots.get? id = some slot)
    (leased : slot.status = .leased) : id ∉ s.available := by
  intro member
  obtain ⟨entry, stored, status⟩ := sound.queued member
  cases found.symm.trans stored
  cases leased.symm.trans status

theorem unopened (sound : s.Sound) : s.slots.get? ⟨s.nextId⟩ = none := by
  cases found : s.slots.get? ⟨s.nextId⟩ with
  | none => rfl
  | some slot => exact False.elim (Nat.lt_irrefl _ (sound.opened _ _ found))

theorem available_le_size (sound : s.Sound) : s.population.available ≤ s.population.size := by
  have known : s.available ⊆ s.slots.keys := fun id member => by
    obtain ⟨slot, found, _⟩ := sound.queued member
    exact (Table.mem_keys_iff _ _).mpr ⟨slot, found⟩
  simp only [population, Table.size_eq_length_keys]
  exact List.Nodup.length_le_of_subset sound.queue_distinct known

theorem available_eq_size (sound : s.Sound) (idle : ∀ id slot, s.slots.get? id = some slot →
    slot.status = .available) : s.population.available = s.population.size := by
  have queued : s.slots.keys ⊆ s.available := fun id member => by
    obtain ⟨slot, found⟩ := (Table.mem_keys_iff _ _).mp member
    exact (sound.mem_queue_iff id).mpr ⟨slot, found, idle id slot found⟩
  refine Nat.le_antisymm sound.available_le_size ?_
  simp only [population, Table.size_eq_length_keys]
  exact List.Nodup.length_le_of_subset sound.keys_distinct queued

theorem insert (sound : s.Sound) (resource : α) (status : SlotStatus) :
    (s.insert resource status).2.Sound where
  keys_distinct := Table.nodup_keys_set sound.keys_distinct _ _
  queue_distinct := by
    have absent : (⟨s.nextId⟩ : SlotId) ∉ s.available := fun member => by
      obtain ⟨slot, found, _⟩ := sound.queued member
      exact Nat.lt_irrefl _ (sound.opened _ _ found)
    simp only [Store.insert]
    split
    · rw [List.nodup_append_comm]
      exact List.nodup_cons.mpr ⟨absent, sound.queue_distinct⟩
    · exact sound.queue_distinct
  mem_queue_iff := by
    intro id
    simp only [Store.insert, Table.get?_set]
    by_cases new : (⟨s.nextId⟩ : SlotId) = id
    · subst new
      have absent := sound.mem_queue_iff ⟨s.nextId⟩
      rw [sound.unopened] at absent
      cases status <;> simp_all
    · cases status <;> simp [new, Ne.symm new, sound.mem_queue_iff id]
  current := by
    intro id slot found
    simp only [Store.insert, Table.get?_set] at found ⊢
    split at found
    · cases found
      rfl
    · exact sound.current _ _ found
  opened := by
    intro id slot found
    simp only [Store.insert, Table.get?_set] at found ⊢
    split at found
    · rename_i new
      subst new
      exact Nat.lt_succ_self _
    · exact Nat.lt_succ_of_lt (sound.opened _ _ found)

theorem insertAll (sound : s.Sound) (resources : List α) : (s.insertAll resources).Sound := by
  induction resources generalizing s with
  | nil => exact sound
  | cons resource rest ih => exact ih (sound.insert resource .available)

theorem admitLeased (sound : s.Sound) (resource : α) (generation : Nat) :
    (s.admitLeased resource generation).2.Sound := by
  unfold Store.admitLeased
  split
  · exact sound.insert resource .leased
  · exact sound

theorem admitAvailable {resources : List α} {generation : Nat} {admitted : Store α}
    (sound : s.Sound) (accepted : s.admitAvailable resources generation = some admitted) :
    admitted.Sound := by
  unfold Store.admitAvailable at accepted
  split at accepted
  · cases accepted
    exact sound.insertAll resources
  · contradiction

/-- A known slot may change its status if the queue changes with it. -/
theorem setStatus {status : SlotStatus} {queue : List SlotId} (sound : s.Sound)
    (found : s.slots.get? id = some slot) (distinct : queue.Nodup)
    (members : ∀ other, other ∈ queue ↔
      if id = other then status = .available else other ∈ s.available) :
    ({ s with slots := s.slots.set id { slot with status }, available := queue } : Store α).Sound
    where
  keys_distinct := Table.nodup_keys_set sound.keys_distinct _ _
  queue_distinct := distinct
  mem_queue_iff := by
    intro other
    simp only [members, Table.get?_set]
    by_cases same : id = other
    · simp [same]
    · simp [same, sound.mem_queue_iff other]
  current := by
    intro other entry stored
    simp only [Table.get?_set] at stored
    split at stored
    · cases stored
      exact sound.current id slot found
    · exact sound.current _ _ stored
  opened := by
    intro other entry stored
    simp only [Table.get?_set] at stored
    split at stored
    · rename_i same
      exact sound.opened _ slot (same ▸ found)
    · exact sound.opened _ _ stored

/-- Slots may be forgotten if they leave the queue too. -/
theorem eraseAll {queue : List SlotId} (sound : s.Sound) (ids : List SlotId)
    (distinct : queue.Nodup)
    (members : ∀ other, other ∈ queue ↔ other ∈ s.available ∧ other ∉ ids) :
    ({ s with slots := s.slots.eraseAll ids, available := queue } : Store α).Sound where
  keys_distinct := Table.nodup_keys_eraseAll sound.keys_distinct ids
  queue_distinct := distinct
  mem_queue_iff := by
    intro other
    simp only [members, Table.get?_eraseAll, sound.mem_queue_iff other]
    by_cases gone : other ∈ ids <;> simp [gone]
  current := by
    intro other entry stored
    simp only [Table.get?_eraseAll] at stored
    split at stored
    · contradiction
    · exact sound.current _ _ stored
  opened := by
    intro other entry stored
    simp only [Table.get?_eraseAll] at stored
    split at stored
    · contradiction
    · exact sound.opened _ _ stored

/-- A claim takes the last slot of the queue, which the store knows; it fails only
where the queue is empty. -/
theorem claim_cases (sound : s.Sound) :
    (s.available = [] ∧ s.claim = (none, s)) ∨
      ∃ queue id slot, s.available = queue ++ [id] ∧ s.slots.get? id = some slot ∧
        slot.status = .available ∧
        s.claim = (some ⟨id, slot.resource, s.generation⟩,
          { s with
            available := queue, slots := s.slots.set id { slot with status := .leased } }) := by
  cases last : s.available.getLast? with
  | none => exact Or.inl ⟨List.getLast?_eq_none_iff.mp last, by simp only [Store.claim, last]⟩
  | some id =>
      obtain ⟨queue, concat⟩ := List.getLast?_eq_some_iff.mp last
      obtain ⟨slot, found, status⟩ := sound.queued (show id ∈ s.available by simp [concat])
      refine Or.inr ⟨queue, id, slot, concat, found, status, ?_⟩
      simp only [Store.claim, last, found]
      simp only [concat, List.dropLast_concat]

theorem claim_eq_none_iff (sound : s.Sound) : s.claim.1 = none ↔ s.available = [] := by
  rcases sound.claim_cases with ⟨idle, claimed⟩ | ⟨queue, id, slot, concat, _, _, claimed⟩
  · simp [idle, claimed]
  · simp [concat, claimed]

theorem claim_stored {taken : Claim α} (sound : s.Sound) (claimed : s.claim.1 = some taken) :
    s.claim.2.slots.get? taken.slot = some ⟨taken.resource, taken.generation, .leased⟩ := by
  rcases sound.claim_cases with ⟨_, outcome⟩ | ⟨queue, id, slot, _, found, _, outcome⟩ <;>
    rw [outcome] at claimed ⊢ <;> cases claimed
  rw [Table.get?_set_self, sound.current id slot found]

theorem claim (sound : s.Sound) : s.claim.2.Sound := by
  rcases sound.claim_cases with ⟨_, claimed⟩ | ⟨queue, id, slot, concat, found, _, claimed⟩
  · rw [claimed]
    exact sound
  · rw [claimed]
    obtain ⟨distinct, _, apart⟩ := List.nodup_append.mp (concat ▸ sound.queue_distinct)
    have absent : id ∉ queue := fun member => apart id member id (List.mem_singleton_self id) rfl
    apply sound.setStatus found distinct
    intro other
    split
    · rename_i same
      simp [← same, absent]
    · rename_i different
      simp [concat, Ne.symm different]

end Sound

theorem lockAvailable_found {resource : α} (locked : s.lockAvailable id = some resource) :
    ∃ slot, s.slots.get? id = some slot ∧ slot.status = .available ∧ slot.resource = resource := by
  unfold lockAvailable at locked
  split at locked
  · rename_i slot found
    split at locked <;> cases locked
    exact ⟨slot, found, ‹_›, rfl⟩
  · contradiction

theorem lockAvailable_none (unlockable : s.lockAvailable id = none) {slot : Slot α}
    (found : s.slots.get? id = some slot) : slot.status ≠ .available := by
  unfold lockAvailable at unlockable
  rw [found] at unlockable
  simpa using unlockable

theorem claim_generation {taken : Claim α} (s : Store α) (claimed : s.claim.1 = some taken) :
    taken.generation = s.generation := by
  unfold Store.claim at claimed
  split at claimed
  · contradiction
  · simp only at claimed
    split at claimed <;> cases claimed
    rfl

theorem admitLeased_stored (s : Store α) {resource : α} {generation : Nat}
    (admitted : (s.admitLeased resource generation).1 = some id) :
    generation = s.generation ∧
      (s.admitLeased resource generation).2.slots.get? id =
        some ⟨resource, generation, .leased⟩ := by
  unfold Store.admitLeased at admitted ⊢
  split at admitted
  · rename_i fresh
    cases admitted
    rw [if_pos fresh]
    exact ⟨fresh, fresh ▸ Table.get?_set_self ..⟩
  · contradiction

/-- A slot is recycled exactly if it is known as leased and it and the caller are of the
current generation; otherwise nothing changes. -/
theorem release_cases (s : Store α) (id : SlotId) (generation : Nat) :
    (∃ slot, generation = s.generation ∧ s.slots.get? id = some slot ∧ slot.status = .leased ∧
      slot.generation = generation ∧ s.release id generation = (.recycled, { s with
        slots := s.slots.set id { slot with status := .available }
        available := s.available ++ [id] })) ∨
    ((∀ slot, s.slots.get? id = some slot → slot.status = .leased →
      slot.generation = generation → generation ≠ s.generation) ∧
      s.release id generation = (.discarded, s)) := by
  by_cases fresh : generation = s.generation
  · cases found : s.slots.get? id with
    | none => exact Or.inr ⟨by simp, by simp [Store.release, fresh, found]⟩
    | some slot =>
        by_cases out : slot.status = .leased ∧ slot.generation = generation
        · refine Or.inl ⟨slot, fresh, rfl, out.1, out.2, ?_⟩
          simp only [Store.release, fresh, found]
          simp [out.1, out.2.trans fresh]
        · refine Or.inr ⟨?_, ?_⟩
          · rintro entry ⟨rfl⟩ leased own
            exact False.elim (out ⟨leased, own⟩)
          · simp only [Store.release, found, fresh] at out ⊢
            simp [out]
  · exact Or.inr ⟨fun _ _ _ _ => fresh, by simp [Store.release, fresh]⟩

/-- A slot that is released as it was claimed is back in its place. -/
theorem Sound.release_claim {taken : Claim α} (sound : s.Sound) (claimed : s.claim.1 = some taken) :
    s.claim.2.release taken.slot taken.generation = (.recycled, s) := by
  rcases sound.claim_cases with ⟨_, outcome⟩ | ⟨queue, id, slot, concat, found, idle, outcome⟩ <;>
    rw [outcome] at claimed ⊢ <;> cases claimed
  have current : slot = ⟨slot.resource, s.generation, .available⟩ := by
    rw [← sound.current id slot found, ← idle]
  have restored : s.slots.set id ⟨slot.resource, s.generation, .available⟩ = s.slots :=
    Table.set_eq_self (current ▸ found)
  simp [Store.release, Table.get?_set_self, sound.current id slot found, Table.set_set, restored,
    ← concat]

theorem remove_cases (s : Store α) (id : SlotId) :
    (s.slots.get? id = none ∧ s.remove id = (none, s)) ∨
    ∃ slot, s.slots.get? id = some slot ∧ s.remove id = (some slot.resource, { s with
      slots := s.slots.erase id
      available :=
        if slot.status = .available then s.available.filter (· ≠ id) else s.available }) := by
  cases found : s.slots.get? id with
  | none => exact Or.inl ⟨rfl, by simp only [Store.remove, found]⟩
  | some slot => exact Or.inr ⟨slot, rfl, by simp only [Store.remove, found]⟩

theorem release_absent (absent : s.slots.get? id = none) (generation : Nat) :
    (s.release id generation).2 = s := by
  rcases release_cases s id generation with ⟨slot, _, found, _⟩ | ⟨_, released⟩
  · cases absent.symm.trans found
  · rw [released]

theorem get?_remove (s : Store α) (id : SlotId) : (s.remove id).2.slots.get? id = none := by
  rcases remove_cases s id with ⟨absent, removed⟩ | ⟨slot, _, removed⟩ <;> rw [removed]
  · exact absent
  · rw [Table.get?_erase_self]

theorem get?_remove_of_ne {other : SlotId} (s : Store α) (different : other ≠ id) :
    (s.remove id).2.slots.get? other = s.slots.get? other := by
  rcases remove_cases s id with ⟨_, removed⟩ | ⟨_, _, removed⟩ <;> rw [removed]
  exact Table.get?_erase_of_ne _ (Ne.symm different)

theorem get?_release_of_ne {other : SlotId} (s : Store α) (generation : Nat)
    (different : other ≠ id) :
    (s.release id generation).2.slots.get? other = s.slots.get? other := by
  rcases release_cases s id generation with ⟨_, _, _, _, _, released⟩ | ⟨_, released⟩ <;>
    rw [released]
  exact Table.get?_set_of_ne _ _ (Ne.symm different)

theorem remove_absent (absent : s.slots.get? id = none) : (s.remove id).2 = s := by
  rcases remove_cases s id with ⟨_, removed⟩ | ⟨slot, found, _⟩
  · rw [removed]
  · cases absent.symm.trans found

/-- Disposing of slots that are all known takes exactly the first ones. -/
theorem disposeFrom_eq {queue : List SlotId} (s : Store α) (count : Nat) (distinct : queue.Nodup)
    (known : ∀ id ∈ queue, ∃ slot, s.slots.get? id = some slot) :
    disposeFrom queue count s =
      ((queue.take count).filterMap fun id => (s.slots.get? id).map Slot.resource,
        { s with
          slots := s.slots.eraseAll (queue.take count), available := queue.drop count }) := by
  induction queue generalizing count s with
  | nil => cases count <;> simp [disposeFrom, Table.eraseAll]
  | cons id rest ih =>
      cases count with
      | zero => simp [disposeFrom, Table.eraseAll]
      | succ count =>
          obtain ⟨slot, found⟩ := known id List.mem_cons_self
          obtain ⟨absent, distinct⟩ := List.nodup_cons.mp distinct
          have kept : ∀ other ∈ rest, (s.slots.erase id).get? other = s.slots.get? other := by
            intro other member
            have different : id ≠ other := fun same => absent (same ▸ member)
            rw [Table.get?_erase_of_ne _ different]
          have rested := ih { s with slots := s.slots.erase id } count distinct
            (fun other member => kept other member ▸ known other (List.mem_cons_of_mem _ member))
          simp only [disposeFrom, found, rested, List.take_succ_cons, List.drop_succ_cons,
            List.filterMap_cons, Option.map_some, Prod.mk.injEq, List.cons.injEq, true_and]
          refine ⟨?_, rfl⟩
          apply List.filterMap_congr
          intro other member
          rw [kept other (List.mem_of_mem_take member)]

namespace Sound

theorem release (sound : s.Sound) (id : SlotId) (generation : Nat) :
    (s.release id generation).2.Sound := by
  rcases release_cases s id generation with ⟨slot, _, found, leased, _, released⟩ | ⟨_, released⟩
  · rw [released]
    have absent : id ∉ s.available := sound.unqueued found leased
    apply sound.setStatus found
    · rw [List.nodup_append_comm]
      exact List.nodup_cons.mpr ⟨absent, sound.queue_distinct⟩
    · intro other
      split
      · rename_i same
        simp [same]
      · rename_i different
        simp [Ne.symm different]
  · rw [released]
    exact sound

theorem remove (sound : s.Sound) (id : SlotId) : (s.remove id).2.Sound := by
  rcases remove_cases s id with ⟨_, removed⟩ | ⟨slot, found, removed⟩
  · rw [removed]
    exact sound
  · rw [removed]
    apply sound.eraseAll [id]
    · split
      · exact sound.queue_distinct.filter _
      · exact sound.queue_distinct
    · intro other
      split
      · simp
      · rename_i leased
        simp only [List.mem_singleton, iff_self_and]
        rintro member rfl
        obtain ⟨entry, stored, status⟩ := sound.queued member
        cases found.symm.trans stored
        exact leased status

theorem dispose_eq (sound : s.Sound) (count : Nat) :
    s.dispose count =
      ((s.available.take count).filterMap fun id => (s.slots.get? id).map Slot.resource,
        { s with
          slots := s.slots.eraseAll (s.available.take count)
          available := s.available.drop count }) := by
  apply disposeFrom_eq s count sound.queue_distinct
  intro id member
  obtain ⟨slot, found, _⟩ := sound.queued member
  exact ⟨slot, found⟩

theorem dispose (sound : s.Sound) (count : Nat) : (s.dispose count).2.Sound := by
  rw [sound.dispose_eq]
  apply sound.eraseAll _ (sound.queue_distinct.sublist (List.drop_sublist _ _))
  intro other
  have distinct := sound.queue_distinct
  rw [← List.take_append_drop count s.available] at distinct
  obtain ⟨_, _, apart⟩ := List.nodup_append.mp distinct
  constructor
  · intro member
    exact ⟨List.mem_of_mem_drop member, fun early => apart other early other member rfl⟩
  · rintro ⟨member, late⟩
    rw [← List.take_append_drop count s.available] at member
    exact (List.mem_append.mp member).resolve_left late

theorem clear (s : Store α) : s.clear.2.Sound := emptied { s with generation := s.generation + 1 }

theorem perform (sound : s.Sound) (operation : Operation α) : (s.perform operation).2.Sound := by
  cases operation with
  | admitLeased resource generation => exact sound.admitLeased resource generation
  | admitAvailable resources generation =>
      simp only [Store.perform]
      split
      · rename_i accepted
        exact sound.admitAvailable accepted
      · exact sound
  | claim => exact sound.claim
  | release slot generation => exact sound.release slot generation
  | remove slot => exact sound.remove slot
  | lockAvailable | availableIds | members => exact sound
  | dispose count => exact sound.dispose count
  | clear => exact .clear s

theorem after (sound : s.Sound) (history : List (Operation α)) : (s.after history).Sound := by
  induction history generalizing s with
  | nil => exact sound
  | cons operation rest ih => exact ih (sound.perform operation)

theorem length_dispose (sound : s.Sound) (count : Nat) :
    (s.dispose count).1.length = min count s.available.length := by
  have known : ∀ id ∈ s.available.take count,
      ((s.slots.get? id).map Slot.resource).isSome = true := by
    intro id member
    obtain ⟨slot, found, _⟩ := sound.queued (List.mem_of_mem_take member)
    simp [found]
  rw [sound.dispose_eq, List.length_filterMap_eq_countP, List.countP_eq_length.mpr known,
    List.length_take]

theorem used?_eq (sound : s.Sound) : s.population.used? = some s.population.used :=
  if_pos sound.available_le_size

theorem isSome_metrics (sound : s.Sound) (counters : Counters) :
    (Metrics.ofPopulation? counters s.population).isSome = true := by
  unfold Metrics.ofPopulation?
  split
  · rfl
  · rw [sound.used?_eq]
    rfl

end Sound

/-- Whatever is done to a new store leaves it sound. Hence its counts can always be taken,
a claim fails only on an empty queue, and disposing yields as much as there is. -/
theorem after_sound (history : List (Operation α)) :
    let s := ({} : Store α).after history
    s.Sound ∧ s.population.available ≤ s.population.size ∧
      s.population.used? = some s.population.used ∧
      (∀ counters, (Metrics.ofPopulation? counters s.population).isSome = true) ∧
      (s.claim.1 = none ↔ s.available = []) ∧
      ∀ count, (s.dispose count).1.length = min count s.available.length := by
  have sound := Sound.empty.after history
  exact ⟨sound, sound.available_le_size, sound.used?_eq, sound.isSome_metrics,
    sound.claim_eq_none_iff, sound.length_dispose⟩

end ResourcePool.Store
