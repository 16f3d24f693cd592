import ResourcePool.Proofs.Upkeep.Yields

/-! The events of whole cycles. What a cycle of each kind of job reports is given by a grammar,
and so is what it has reported where it waits in the middle. -/
namespace ResourcePool
open Work (Traces)

/-! ## The keeper -/

namespace Keeper

/-- A batch is admitted or dropped with one event, unless nothing was made. -/
inductive Closing : Nat → List Event → Prop
  | nothing : Closing 0 []
  | added {made : Nat} : 0 < made → Closing made [.added made]
  | skipped {made : Nat} : 0 < made → Closing made [.additionSkipped made]

/-- The cycle is about to fill up the population, and some creations have failed so far. -/
def filling (available needed used size : Nat) (errors : List String) : List Event :=
  .keeperCycleStart :: .tooFew available needed used size ::
    errors.map (.creationFailed needed ·)

/-- A cycle finds enough, too much or too little; what is needed is made, or its failure is
reported. -/
inductive Cycle : List Event → Prop
  | balanced (available used size : Nat) :
      Cycle [.keeperCycleStart, .populationOk available used size]
  | surplus (available remove count : Nat) :
      Cycle [.keeperCycleStart, .tooMany available remove, .disposing count]
  | filled {available needed used size made : Nat} {errors : List String} {closing : List Event} :
      made + errors.length = needed → Closing made closing →
      Cycle (filling available needed used size errors ++ closing)

/-- Calls of a batch that were not reported as failed. -/
def Batch.unfailed (batch : Batch) : Nat :=
  batch.waiting + batch.running.length + batch.ended.length + batch.made.length

/-- The cycle of a batch: every call is reported as failed, or still counts for the batch. -/
inductive Underway (batch : Batch) : List Event → Prop
  | filling {available used size : Nat} (errors : List String) :
      batch.unfailed + errors.length = batch.needed →
      Underway batch (filling available batch.needed used size errors)

theorem Underway.of_settled {batch : Batch} {available needed used size : Nat}
    {errors : List String} (same : batch.needed = needed)
    (settled : batch.unfailed + errors.length = needed) :
    Underway batch (Keeper.filling available needed used size errors) := by
  subst same
  exact .filling _ settled

theorem Underway.of_eq {batch next : Batch} {told : List Event} (underway : Underway batch told)
    (needed : next.needed = batch.needed) (unfailed : next.unfailed = batch.unfailed) :
    Underway next told := by
  cases underway with
  | filling errors settled =>
      rw [← needed]
      exact .filling _ (by omega)

/-- Where a survey leaves the cycle: it is over, or a batch is to be made. -/
def Stands (told : List Event) : Option Batch → Prop
  | none => Cycle told
  | some batch => Underway batch told

theorem Surveyed.stands {store left : Store Resource} {tuning : Tuning} {answer : Option Batch}
    {events : List Event} (surveyed : Surveyed store tuning answer events left) :
    Stands events answer := by
  cases surveyed with
  | lacking => exact Underway.filling [] rfl
  | surplus => exact Cycle.surplus ..
  | balanced => exact Cycle.balanced ..

theorem survey_traces (b : Books) : Traces survey b fun answer told => Stands told answer :=
  (survey_yields b).traces fun _ _ _ ⟨events, told, surveyed⟩ => ⟨events, told, surveyed.stands⟩

theorem closing_closes (made : Nat) (admitted : Prop) [Decidable admitted] :
    Closing made (closing made admitted) := by
  unfold closing
  split
  · rename_i none
    exact none ▸ .nothing
  · rename_i some
    split
    · exact .added (Nat.pos_of_ne_zero some)
    · exact .skipped (Nat.pos_of_ne_zero some)

/-- The call that the keeper takes note of is made or reported as failed; the others are left. -/
theorem Collected.stands {batch : Batch} {call : Resource} {supply : Supply}
    {store left : Store Resource} {answer : Option Batch} {early events : List Event}
    (collected : Collected batch call supply store answer events left)
    (ended : (call, supply) ∈ batch.ended) (underway : Underway batch early) :
    Stands (early ++ events) answer := by
  obtain @⟨available, used, size, failed, settled⟩ := underway
  have grown (errors : List String) : filling available batch.needed used size failed ++
      errors.map (.creationFailed batch.needed ·) =
        filling available batch.needed used size (failed ++ errors) := by
    simp [filling]
  have lengths : batch.ended.length = (batch.join call supply).ended.length + 1 :=
    (List.perm_cons_erase ended).length_eq
  have total : (madeIn [(call, supply)]).length + (failuresIn [(call, supply)]).length = 1 :=
    length_madeIn _
  unfold Batch.unfailed at settled
  cases collected with
  | going =>
      rw [grown]
      refine Underway.of_settled rfl ?_
      simp only [Batch.unfailed, Batch.noting, Batch.join, List.length_append] at lengths ⊢
      omega
  | closed waiting running empty =>
      rw [← List.append_assoc, grown]
      refine Cycle.filled ?_ (closing_closes ..)
      simp only [waiting, running, lengths, empty, List.length_nil, List.length_append] at settled ⊢
      omega

theorem collect_traces {batch : Batch} {call : Resource} {supply : Supply} {early : List Event}
    (ended : (call, supply) ∈ batch.ended) (underway : Underway batch early) (b : Books) :
    Traces (collect batch call supply) b fun answer late => Stands (early ++ late) answer :=
  (collect_yields batch call supply b).traces fun _ _ _ ⟨events, told, collected⟩ =>
    ⟨events, told, collected.stands ended underway⟩

theorem launch_underway {batch : Batch} {told : List Event} (underway : Underway batch told)
    (waiting : 0 < batch.waiting) (b : Books) : Underway (batch.launch b).1 told := by
  refine underway.of_eq rfl ?_
  simp only [Batch.launch, Batch.unfailed, List.length_append, List.length_singleton]
  omega

theorem deliver_underway {batch : Batch} {told : List Event} {call : Resource}
    (underway : Underway batch told) (running : call ∈ batch.running) (supply : Supply)
    (b : Books) : Underway (batch.deliver call supply b).1 told := by
  refine underway.of_eq rfl ?_
  have positive := List.length_pos_of_mem running
  simp only [Batch.deliver, Batch.unfailed, List.length_erase_of_mem running, List.length_append,
    List.length_singleton]
  omega

end Keeper

/-! ## The health job -/

namespace Health

/-- What comes of a slot when its turn comes, and whether it was locked for a check. -/
inductive Visit (slot : SlotId) : Nat → List Event → Prop
  | gone : Visit slot 0 [.unlockable slot]
  | kept : Visit slot 1 [.locked slot, .checking slot, .keeping slot]
  | broken : Visit slot 1 [.locked slot, .checking slot, .evicting slot]
  | failed (error : String) :
      Visit slot 1 [.locked slot, .checking slot, .checkFailed slot error, .evicting slot]

/-- Visits to some slots, one after another, with the number of those that were locked. -/
inductive Visits : List SlotId → Nat → List Event → Prop
  | nil : Visits [] 0 []
  | next {slots : List SlotId} {slot : SlotId} {locked one : Nat} {told events : List Event} :
      Visits slots locked told → Visit slot one events →
      Visits (slots ++ [slot]) (locked + one) (told ++ events)

/-- A cycle visits every slot of its snapshot. -/
inductive Cycle : List Event → Prop
  | visited {slots : List SlotId} {locked : Nat} {told : List Event} : Visits slots locked told →
      Cycle (.healthCycleStart :: .snapshot slots.length :: (told ++
        [.checksCompleted slots.length locked, .checksFinished, .healthCycleFinished]))

/-- The cycle waits for a check, and some slots are left to be visited. -/
inductive Underway (round : Round) : List Event → Prop
  | checking {visited : List SlotId} {locked : Nat} {told : List Event} :
      Visits visited locked told → round.locked = locked + 1 →
      visited.length + 1 + round.rest.length = round.checked →
      Underway round (.healthCycleStart :: .snapshot round.checked :: (told ++
        [.locked round.slot, .checking round.slot]))

def Stands (told : List Event) : Option Round → Prop
  | none => Cycle told
  | some round => Underway round told

theorem Sought.stands {store : Store Resource} {visited rest : List SlotId} {checked locked : Nat}
    {answer : Option Round} {told events : List Event}
    (sought : Sought checked store locked rest answer events)
    (visits : Visits visited locked told) (total : visited.length + rest.length = checked) :
    Stands (.healthCycleStart :: .snapshot checked :: (told ++ events)) answer := by
  induction sought generalizing visited told with
  | ended =>
      subst total
      exact Cycle.visited visits
  | @gone slot rest _ _ _ _ ih =>
      have next : Visits (visited ++ [slot]) locked (told ++ [.unlockable slot]) :=
        .next visits .gone
      have left : (visited ++ [slot]).length + rest.length = checked := by
        rw [List.length_append, List.length_singleton, ← total, List.length_cons]
        omega
      have stands := ih next left
      rwa [List.append_assoc] at stands
  | found =>
      refine Underway.checking visits rfl ?_
      rw [← total, List.length_cons, Nat.add_right_comm, Nat.add_assoc]

theorem survey_traces (b : Books) : Traces survey b fun answer told => Stands told answer :=
  (survey_yields b).traces fun _ _ _ ⟨_, told, sought, _⟩ =>
    ⟨_, told, sought.stands .nil (Nat.zero_add _)⟩

/-- The check of a slot that was locked ends its visit. -/
theorem visit_conclusion (slot : SlotId) {verdict : Verdict}
    (awake : ∀ text, verdict ≠ .panicked text) :
    Visit slot 1 (.locked slot :: .checking slot :: conclusion slot verdict) := by
  cases verdict with
  | sound => exact .kept
  | broken => exact .broken
  | failed error => exact .failed error
  | panicked text => exact False.elim (awake text rfl)

theorem judge_traces {round : Round} {early : List Event} (underway : Underway round early)
    {verdict : Verdict} (awake : ∀ text, verdict ≠ .panicked text) (b : Books) :
    Traces (judge round verdict) b fun answer late => Stands (early ++ late) answer := by
  obtain @⟨visited, locked, told, visits, same, total⟩ := underway
  refine (judge_yields round verdict b).traces ?_
  rintro answer _ _ ⟨events, rfl, sought, _⟩
  have next := Visits.next visits (visit_conclusion round.slot awake)
  rw [← same] at next
  have stands := sought.stands next (by rw [List.length_append]; exact total)
  exact ⟨_, rfl, by simpa using stands⟩

end Health
end ResourcePool
