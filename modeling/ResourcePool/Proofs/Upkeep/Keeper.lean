import ResourcePool.Proofs.Upkeep.Work

/-! The keeper's stretches. A batch brings only resources of its own factory calls, and only
into the population it was begun for. -/
namespace ResourcePool.Keeper
open Books (Deed Changes)
open Work (Goes)
variable {allowed : Deed → Prop} {b : Books} {batch : Batch}

/-- The factory calls that a batch has begun and not given up. -/
def Batch.resources (batch : Batch) : List Resource :=
  batch.running ++ batch.ended.map Prod.fst ++ batch.made

theorem survey_goes (disposal : ∀ count, allowed (.operate (.dispose count))) (b : Books) :
    Goes allowed survey b fun answer left =>
      ∀ batch ∈ answer, batch.resources = [] ∧ batch.generation = left.store.generation := by
  unfold survey
  refine (Goes.log _).bind fun _ _ _ => Goes.books.bind ?_
  rintro _ b' ⟨rfl, rfl⟩
  simp only
  split
  · refine (Goes.log _).bind ?_
    rintro _ _ rfl
    refine Goes.pure ?_
    rintro batch ⟨rfl⟩
    exact ⟨rfl, rfl⟩
  · split
    · refine (Goes.log _).bind fun _ left _ => (Goes.modifyGet ?_).bind fun _ _ _ =>
        (Goes.log _).bind fun _ _ _ => Goes.pure (by simp)
      have disposed (count : Nat) :
          Changes allowed left { left with store := (left.store.dispose count).2 } :=
        .operate (disposal count) rfl rfl rfl
      exact ((disposed _).trans (.count _ _ _)).trans (.letGoAll _ _)
    · exact (Goes.log _).bind fun _ _ _ => Goes.pure (by simp)

theorem logFailure_goes (needed : Nat) (error : String) (made : List Resource) (b : Books) :
    Goes allowed (logFailure needed error made) b fun _ _ => True := by
  unfold logFailure
  refine (Goes.apply (.count _ _ _)).bind fun _ _ _ => Goes.tryCatch ?_ fun _ _ => ?_
  · exact (Goes.log _).weaken fun _ _ _ => trivial
  · exact (Goes.apply (.letGoAll _ _)).bind fun _ _ _ => Goes.throw _

/-- Taking note of a call adds at most that call to the batch. -/
theorem note_goes (batch : Batch) (call : Resource) (supply : Supply) (b : Books) :
    Goes allowed (note batch call supply) b fun answer _ =>
      answer.generation = batch.generation ∧
        ∀ r ∈ answer.resources, r ∈ batch.resources ∨ r = call := by
  unfold note
  split
  · refine Goes.pure ⟨rfl, fun r member => ?_⟩
    simp only [Batch.resources, List.mem_append, List.mem_singleton] at member ⊢
    tauto
  · exact (logFailure_goes _ _ _ b).bind fun _ _ _ =>
      Goes.pure ⟨rfl, fun _ member => Or.inl member⟩

theorem Batch.join_resources {batch : Batch} {call r : Resource} {supply : Supply}
    (member : r ∈ (batch.join call supply).resources) : r ∈ batch.resources := by
  simp only [Batch.join, Batch.resources, List.mem_append] at member ⊢
  rcases member with (running | ended) | made
  · exact Or.inl (Or.inl running)
  · exact Or.inl (Or.inr (List.map_subset _ List.erase_subset ended))
  · exact Or.inr made

theorem admitBatch_goes (generation : Nat) (made : List Resource) (b : Books)
    (entry : allowed (.operate (.admitAvailable made generation))) :
    Goes allowed (admitBatch generation made) b fun _ _ => True := by
  unfold admitBatch
  split
  · exact Goes.pure trivial
  · refine (Goes.apply (.count _ _ _)).bind fun _ b' _ => Goes.books.bind ?_
    rintro _ b' ⟨rfl, rfl⟩
    split
    · rename_i store accepted
      refine (Goes.apply (.operate entry ?_ rfl rfl)).bind fun _ _ _ => ?_
      · simp only [Store.perform, accepted]
      · exact (Goes.log _).weaken fun _ _ _ => trivial
    · refine (Goes.apply (.letGoAll _ _)).bind fun _ _ _ => ?_
      exact (Goes.log _).weaken fun _ _ _ => trivial

theorem collect_goes {call : Resource} {supply : Supply} (ended : (call, supply) ∈ batch.ended)
    (b : Books) (entry : ∀ made, (∀ r ∈ made, r ∈ batch.resources) →
      allowed (.operate (.admitAvailable made batch.generation))) :
    Goes allowed (collect batch call supply) b fun answer _ => ∀ next ∈ answer,
      next.generation = batch.generation ∧ ∀ r ∈ next.resources, r ∈ batch.resources := by
  have called : call ∈ batch.resources :=
    List.mem_append_left _ (List.mem_append_right _ (List.mem_map_of_mem ended))
  unfold collect
  refine (note_goes _ call supply b).bind fun noted b' ⟨generation, resources⟩ => ?_
  have own : ∀ r ∈ noted.resources, r ∈ batch.resources := by
    intro r member
    rcases resources r member with earlier | rfl
    · exact Batch.join_resources earlier
    · exact called
  split
  · refine (admitBatch_goes _ _ b' ?_).bind fun _ _ _ => Goes.pure (by simp)
    rw [generation]
    exact entry _ fun r member => own r (List.mem_append_right _ member)
  · refine Goes.pure ?_
    rintro next ⟨rfl⟩
    exact ⟨generation, own⟩

end ResourcePool.Keeper
