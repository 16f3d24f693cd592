import ResourcePool.Proofs.Store.Sound

/-! The number of a slot is its identity: it keeps its resource as long as the store has it,
and once forgotten it never comes back. Only what an operation brings for the current
generation gets a new number. -/
namespace ResourcePool.Store
variable {α : Type} {s : Store α} {id : SlotId} {slot : Slot α} {operation : Operation α}

/-- Whether an operation offers a resource to the population of a generation. -/
def Operation.Brings (resource : α) (generation : Nat) : Operation α → Prop
  | .admitLeased brought made => brought = resource ∧ made = generation
  | .admitAvailable brought made => resource ∈ brought ∧ made = generation
  | _ => False

/-- Operations by which no lease begins or ends. -/
def Operation.isUpkeep : Operation α → Bool
  | .admitLeased .. | .claim | .release .. => false
  | _ => true

def Operation.clearings : Operation α → Nat
  | .clear => 1
  | _ => 0

theorem Operation.Brings.clearings {resource : α} {generation : Nat}
    (brings : operation.Brings resource generation) : operation.clearings = 0 := by
  cases operation <;> first | rfl | exact False.elim brings

/-- Operations that forget a slot although it may be leased. -/
def Operation.Evicts (id : SlotId) : Operation α → Prop
  | .remove slot => slot = id
  | .clear => True
  | _ => False

/-- What an operation leaves of the slots, and where slots come from. Upkeep changes none
that it leaves, and a leased slot goes only by an eviction. -/
structure Follows (operation : Operation α) (s next : Store α) : Prop where
  generation : next.generation = s.generation + operation.clearings
  nextId : s.nextId ≤ next.nextId
  origin : ∀ id slot, next.slots.get? id = some slot →
    (∃ before, s.slots.get? id = some before ∧ slot = { before with status := slot.status } ∧
      (operation.isUpkeep → before = slot)) ∨
    (s.nextId ≤ id.number ∧ operation.Brings slot.resource s.generation ∧
      (operation.isUpkeep → slot.status = .available))
  kept : ∀ id slot, s.slots.get? id = some slot → slot.status = .leased →
    next.slots.get? id = none → operation.Evicts id

theorem Follows.refl (operation : Operation α) (quiet : operation.clearings = 0) (s : Store α) :
    Follows operation s s where
  generation := by rw [quiet, Nat.add_zero]
  nextId := Nat.le_refl _
  origin := fun _ slot found => Or.inl ⟨slot, found, rfl, fun _ => rfl⟩
  kept := by
    intro id slot found _ absent
    cases found.symm.trans absent

theorem insertAll_spec (s : Store α) (resources : List α) :
    (s.insertAll resources).generation = s.generation ∧
    s.nextId ≤ (s.insertAll resources).nextId ∧
    (∀ id slot, s.slots.get? id = some slot → id.number < s.nextId →
      (s.insertAll resources).slots.get? id = some slot) ∧
    ∀ id slot, (s.insertAll resources).slots.get? id = some slot →
      s.slots.get? id = some slot ∨
        s.nextId ≤ id.number ∧ slot.resource ∈ resources ∧ slot.status = .available := by
  induction resources generalizing s with
  | nil => exact ⟨rfl, Nat.le_refl _, fun _ _ found _ => found, fun _ _ found => Or.inl found⟩
  | cons resource rest ih =>
      obtain ⟨generation, next, kept, found⟩ := ih (s.insert resource .available).2
      refine ⟨generation, Nat.le_of_succ_le next, ?_, ?_⟩
      · intro id slot before opened
        apply kept id slot _ (Nat.lt_succ_of_lt opened)
        have different : (⟨s.nextId⟩ : SlotId) ≠ id := by
          rintro rfl
          exact Nat.lt_irrefl _ opened
        simp only [insert, Table.get?_set, if_neg different, before]
      · intro id slot after
        rcases found id slot after with before | ⟨later, member, status⟩
        · simp only [insert, Table.get?_set] at before
          split at before
          · rename_i new
            cases before
            exact Or.inr ⟨Nat.le_of_eq (congrArg SlotId.number new), List.mem_cons_self, rfl⟩
          · exact Or.inl before
        · exact Or.inr ⟨Nat.le_of_succ_le later, List.mem_cons_of_mem _ member, status⟩

/-- New slots become available in the order of their resources. -/
theorem available_insertAll (s : Store α) (resources : List α) :
    (s.insertAll resources).available =
      s.available ++ (List.range resources.length).map fun i => ⟨s.nextId + i⟩ := by
  induction resources generalizing s with
  | nil => exact (List.append_nil _).symm
  | cons resource rest ih =>
      refine (ih (s.insert resource .available).2).trans ?_
      rw [List.length_cons, List.range_succ_eq_map]
      simp [insert, Nat.add_comm, Nat.add_left_comm, Function.comp_def]

/-- Changing a known slot's status and the queue. -/
theorem Follows.setStatus {status : SlotStatus} {queue : List SlotId}
    (quiet : operation.clearings = 0) (leasing : operation.isUpkeep = false)
    (found : s.slots.get? id = some slot) :
    Follows operation s
      { s with slots := s.slots.set id { slot with status }, available := queue } where
  generation := by rw [quiet, Nat.add_zero]
  nextId := Nat.le_refl _
  origin := by
    intro other entry stored
    simp only [Table.get?_set] at stored
    split at stored
    · rename_i same
      cases stored
      exact Or.inl ⟨slot, same ▸ found, rfl, by simp [leasing]⟩
    · exact Or.inl ⟨entry, stored, rfl, fun _ => rfl⟩
  kept := by
    intro other entry stored _ absent
    simp only [Table.get?_set] at absent
    split at absent
    · contradiction
    · cases stored.symm.trans absent

/-- Forgetting slots, of which the leased ones are evicted. -/
theorem Follows.eraseAll {queue : List SlotId} (quiet : operation.clearings = 0)
    (ids : List SlotId)
    (evicted : ∀ id ∈ ids, ∀ slot, s.slots.get? id = some slot → slot.status = .leased →
      operation.Evicts id) :
    Follows operation s { s with slots := s.slots.eraseAll ids, available := queue } where
  generation := by rw [quiet, Nat.add_zero]
  nextId := Nat.le_refl _
  origin := by
    intro other entry stored
    simp only [Table.get?_eraseAll] at stored
    split at stored
    · contradiction
    · exact Or.inl ⟨entry, stored, rfl, fun _ => rfl⟩
  kept := by
    intro other entry stored leased absent
    simp only [Table.get?_eraseAll] at absent
    split at absent
    · rename_i gone
      exact evicted other gone entry stored leased
    · cases stored.symm.trans absent

theorem follows_admitLeased (s : Store α) (resource : α) (generation : Nat) :
    Follows (.admitLeased resource generation) s (s.admitLeased resource generation).2 := by
  unfold Store.admitLeased
  split
  · rename_i fresh
    refine ⟨rfl, Nat.le_succ _, ?_, ?_⟩
    · intro id slot stored
      simp only [Store.insert, Table.get?_set] at stored
      split at stored
      · rename_i new
        cases stored
        exact Or.inr ⟨Nat.le_of_eq (congrArg SlotId.number new), ⟨rfl, fresh⟩,
          by simp [Operation.isUpkeep]⟩
      · exact Or.inl ⟨slot, stored, rfl, fun _ => rfl⟩
    · intro id slot stored _ absent
      simp only [Store.insert, Table.get?_set] at absent
      split at absent
      · contradiction
      · cases stored.symm.trans absent
  · exact .refl _ rfl s

theorem Sound.follows_insertAll (sound : s.Sound) (resources : List α) :
    Follows (.admitAvailable resources s.generation) s (s.insertAll resources) := by
  obtain ⟨generation, next, kept, found⟩ := s.insertAll_spec resources
  refine ⟨generation, next, ?_, ?_⟩
  · intro id slot stored
    rcases found id slot stored with before | ⟨later, member, status⟩
    · exact Or.inl ⟨slot, before, rfl, fun _ => rfl⟩
    · exact Or.inr ⟨later, ⟨member, rfl⟩, fun _ => status⟩
  · intro id slot stored _ absent
    cases absent.symm.trans (kept id slot stored (sound.opened id slot stored))

theorem Sound.follows (sound : s.Sound) (operation : Operation α) :
    Follows operation s (s.perform operation).2 := by
  cases operation with
  | admitLeased resource generation => exact s.follows_admitLeased resource generation
  | admitAvailable resources generation =>
      simp only [Store.perform, Store.admitAvailable]
      by_cases fresh : generation = s.generation
      · subst fresh
        simpa using sound.follows_insertAll resources
      · simpa [fresh] using Follows.refl (.admitAvailable resources generation) rfl s
  | claim =>
      rcases sound.claim_cases with ⟨_, claimed⟩ | ⟨queue, id, slot, _, found, _, claimed⟩
      · simpa only [Store.perform, claimed] using Follows.refl .claim rfl s
      · simpa only [Store.perform, claimed] using Follows.setStatus rfl rfl found
  | release id generation =>
      rcases release_cases s id generation with ⟨slot, _, found, _, _, released⟩ | ⟨_, released⟩
      · simpa only [Store.perform, released] using Follows.setStatus rfl rfl found
      · simpa only [Store.perform, released] using Follows.refl (.release id generation) rfl s
  | remove id =>
      rcases remove_cases s id with ⟨_, removed⟩ | ⟨slot, found, removed⟩
      · simpa only [Store.perform, removed] using Follows.refl (.remove id) rfl s
      · simp only [Store.perform, removed]
        apply Follows.eraseAll rfl [id]
        intro other member _ _ _
        exact (List.mem_singleton.mp member).symm
  | dispose count =>
      simp only [Store.perform, sound.dispose_eq]
      apply Follows.eraseAll rfl
      intro id member slot found leased
      exact absurd (List.mem_of_mem_take member) (sound.unqueued found leased)
  | lockAvailable | availableIds | members => exact .refl _ rfl s
  | clear => exact ⟨rfl, Nat.le_refl _, by simp [Store.perform, Store.clear],
      fun _ _ _ _ _ => trivial⟩

theorem Sound.nextId_le_after (sound : s.Sound) (history : List (Operation α)) :
    s.nextId ≤ (s.after history).nextId := by
  induction history generalizing s with
  | nil => exact Nat.le_refl _
  | cons operation rest ih =>
      exact Nat.le_trans (sound.follows operation).nextId (ih (sound.perform operation))

theorem Sound.generation_le_after (sound : s.Sound) (history : List (Operation α)) :
    s.generation ≤ (s.after history).generation := by
  induction history generalizing s with
  | nil => exact Nat.le_refl _
  | cons operation rest ih =>
      have grows : s.generation ≤ (s.perform operation).2.generation :=
        (sound.follows operation).generation ▸ Nat.le_add_right _ _
      exact Nat.le_trans grows (ih (sound.perform operation))

/-- A slot that is forgotten stays forgotten. -/
theorem Sound.get?_after_eq_none (sound : s.Sound) (absent : s.slots.get? id = none)
    (opened : id.number < s.nextId) (history : List (Operation α)) :
    (s.after history).slots.get? id = none := by
  induction history generalizing s with
  | nil => exact absent
  | cons operation rest ih =>
      have next := sound.follows operation
      apply ih (sound.perform operation) _ (Nat.lt_of_lt_of_le opened next.nextId)
      cases stored : (s.perform operation).2.slots.get? id with
      | none => rfl
      | some slot =>
          rcases next.origin id slot stored with ⟨before, found, _⟩ | ⟨later, _⟩
          · rw [absent] at found
            contradiction
          · exact False.elim (Nat.lt_irrefl _ (Nat.lt_of_lt_of_le opened later))

end ResourcePool.Store
