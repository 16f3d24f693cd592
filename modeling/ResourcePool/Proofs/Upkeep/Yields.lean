import ResourcePool.Proofs.Upkeep.Batch
import ResourcePool.Proofs.Upkeep.Traces

/-! Stretches of work by all that they report and by the store that they leave. -/
namespace ResourcePool

/-- Reports of events that the sink heard of. -/
def heard (events : List Event) : List Report := events.map (.event · false)

theorem heard_append (early late : List Event) :
    heard (early ++ late) = heard early ++ heard late := List.map_append

theorem eventsOf_heard (events : List Event) : eventsOf (heard events).reverse = events := by
  simp [eventsOf, heard, Report.event?, Function.comp_def]

namespace Work
variable {α β : Type} {w : Work α} {b : Books} {post : α → List Report → Books → Prop}

/-- An answer has a property together with the reports that came before it, in their order, and
with the books; without an answer an event was refused. -/
def Ends (post : α → List Report → Books → Prop) : Except Failure α × Books → List Report → Prop
  | (.ok a, left), told => post a told left
  | (.error _, _), told => Unheard told

/-- From some books a stretch comes to an answer that has a property together with what it reports
and with the books that it leaves, unless one of its events is refused. -/
def Yields (w : Work α) (b : Books) (post : α → List Report → Books → Prop) : Prop :=
  ∃ told, Books.Adds told.reverse b (w.after b).2 ∧ Ends post (w.after b) told

namespace Yields

theorem pure {a : α} (holds : post a [] b) : Yields (Pure.pure a) b post := ⟨[], .refl b, holds⟩

theorem weaken {property : α → List Report → Books → Prop} (yields : Yields w b post)
    (weaker : ∀ a told left, post a told left → property a told left) : Yields w b property := by
  obtain ⟨told, adds, ends⟩ := yields
  refine ⟨told, adds, ?_⟩
  rcases ended : w.after b with ⟨failure | a, left⟩ <;> rw [ended] at ends
  · exact ends
  · exact weaker a told left ends

/-- What follows a stretch starts from books that it left steady. -/
theorem bind_steady {next : α → Work β} {property : β → List Report → Books → Prop}
    (first : Yields w b post)
    (rest : ∀ a early b', post a early b' → b.Steady b' →
      Yields (next a) b' fun answer late left => property answer (early ++ late) left) :
    Yields (w >>= next) b property := by
  obtain ⟨early, adds, ends⟩ := first
  unfold Yields
  rw [after_bind]
  rcases ended : w.after b with ⟨failure | a, b'⟩ <;> rw [ended] at adds ends
  · exact ⟨early, adds, ends⟩
  · obtain ⟨late, adds', ends'⟩ := rest a early b' ends adds.steady
    refine ⟨early ++ late, List.reverse_append ▸ adds.trans adds', ?_⟩
    simp only
    rcases ended' : (next a).after b' with ⟨failure | answer, left⟩ <;> rw [ended'] at ends'
    · exact ends'.subset (List.subset_append_right early late)
    · exact ends'

theorem bind {next : α → Work β} {property : β → List Report → Books → Prop}
    (first : Yields w b post)
    (rest : ∀ a early b', post a early b' →
      Yields (next a) b' fun answer late left => property answer (early ++ late) left) :
    Yields (w >>= next) b property :=
  first.bind_steady fun a early b' holds _ => rest a early b' holds

theorem congr {other : Work α} (same : w.after b = other.after b) (yields : Yields other b post) :
    Yields w b post := by
  unfold Yields
  rw [same]
  exact yields

/-- Work that looks at the books goes on with them as they are. -/
theorem books {next : Books → Work α} (yields : Yields (next b) b post) :
    Yields (Work.books >>= next) b post := yields

/-- A change that reports nothing. -/
theorem modifyGet {change : Books → β × Books} {next : β → Work α}
    (adds : Books.Adds [] b (change b).2) (rest : Yields (next (change b).1) (change b).2 post) :
    Yields (MonadStateOf.modifyGet change >>= next) b post := by
  obtain ⟨told, adds', ends⟩ := rest
  exact ⟨told, (List.append_nil told.reverse) ▸ adds.trans adds', ends⟩

theorem apply {change : Books → Books} {next : Unit → Work α} (adds : Books.Adds [] b (change b))
    (rest : Yields (next ()) (change b) post) : Yields (Work.apply change >>= next) b post := by
  obtain ⟨told, adds', ends⟩ := rest
  exact ⟨told, (List.append_nil told.reverse) ▸ adds.trans adds', ends⟩

theorem tell (event : Event) : Yields (Work.log event) b fun _ told left =>
    told = heard [event] ∧ left = b.tell event := by
  have told := Books.Adds.tell b event
  unfold Yields
  rw [after_log]
  cases heard : b.sink b.journal event <;> rw [heard] at told
  · exact ⟨[.event event false], told, rfl, rfl⟩
  · exact ⟨[.event event true], told, event, List.mem_singleton_self _⟩

theorem log {event : Event} {next : Unit → Work α}
    (rest : Yields (next ()) (b.tell event) fun a late left =>
      post a (heard [event] ++ late) left) : Yields (Work.log event >>= next) b post := by
  refine (tell event).bind ?_
  rintro _ _ _ ⟨rfl, rfl⟩
  exact rest

theorem tryCatch {handler : Failure → Work α} (first : Yields w b post)
    (rescue : ∀ failure b', ∃ failure' left, (handler failure).after b' = (.error failure', left) ∧
      Books.Adds [] b' left) : Yields (MonadExcept.tryCatch w handler) b post := by
  obtain ⟨told, adds, ends⟩ := first
  unfold Yields
  rw [after_tryCatch]
  rcases ended : w.after b with ⟨failure | a, b'⟩ <;> rw [ended] at adds ends
  · obtain ⟨failure', left, failed, adds'⟩ := rescue failure b'
    simp only [failed]
    exact ⟨told, adds.trans adds', ends⟩
  · exact ⟨told, adds, ends⟩

/-- Only the events. -/
theorem traces {property : α → List Event → Prop} (yields : Yields w b post)
    (weaker : ∀ a told left, post a told left → ∃ events, told = heard events ∧
      property a events) : Traces w b property := by
  obtain ⟨told, adds, ends⟩ := yields
  refine ⟨told.reverse, adds, ?_⟩
  rcases ended : w.after b with ⟨failure | a, left⟩ <;> rw [ended] at ends
  · exact ends.subset fun _ member => List.mem_reverse.mpr member
  · obtain ⟨events, rfl, holds⟩ := weaker a told left ends
    show property a (eventsOf (heard events).reverse)
    rwa [eventsOf_heard]

end Yields
end Work

open Work (Yields)

/-- Whether a job waits in the middle of a cycle. -/
def Stage.isMidway : Stage → Bool
  | .creating _ | .checking _ | .ticking => true
  | _ => false

/-! ## The keeper -/

namespace Keeper

/-- What is reported of the failed ones among some calls. -/
def failuresIn (ended : List (Resource × Supply)) : List String := ended.filterMap (·.2.error?)

/-- Each ended call was made or failed. -/
theorem length_madeIn (ended : List (Resource × Supply)) :
    (madeIn ended).length + (failuresIn ended).length = ended.length := by
  induction ended with
  | nil => rfl
  | cons call rest ih =>
      obtain ⟨call, supply⟩ := call
      simp only [List.length_cons, ← ih]
      cases supply with
      | made => exact Nat.add_right_comm ..
      | failed | panicked => rfl

/-- What is reported of a batch once none of its calls is out. -/
def closing (made : Nat) (admitted : Prop) [Decidable admitted] : List Event :=
  if made = 0 then [] else if admitted then [.added made] else [.additionSkipped made]

/-- A store that a batch was offered to. -/
def offered (store : Store Resource) (made : List Resource) (generation : Nat) : Store Resource :=
  (store.admitAvailable made generation).getD store

/-- What a cycle comes to in its first turn. -/
inductive Surveyed (store : Store Resource) (tuning : Tuning) :
    Option Batch → List Event → Store Resource → Prop
  | lacking {needed used size : Nat} : store.available.length < tuning.minSpare →
      needed = tuning.minSpare - store.available.length →
      Surveyed store tuning (some ⟨needed, store.generation, needed, [], [], []⟩)
        [.keeperCycleStart, .tooFew store.available.length needed used size] store
  | surplus {excess : Nat} : ¬ store.available.length < tuning.minSpare →
      tuning.maxSpare < store.available.length →
      excess = store.available.length - tuning.maxSpare →
      Surveyed store tuning none
        [.keeperCycleStart, .tooMany store.available.length excess,
          .disposing (store.dispose excess).1.length]
        (store.dispose excess).2
  | balanced {used size : Nat} : ¬ store.available.length < tuning.minSpare →
      ¬ tuning.maxSpare < store.available.length →
      Surveyed store tuning none
        [.keeperCycleStart, .populationOk store.available.length used size] store

theorem survey_yields (b : Books) : Yields survey b fun answer told left =>
    ∃ events, told = heard events ∧ Surveyed b.store b.tuning answer events left.store := by
  refine .log (.books ?_)
  simp only
  split
  · rename_i few
    exact .log (.pure ⟨[_, _], rfl, .lacking few rfl⟩)
  · rename_i many
    split
    · rename_i excess
      refine .log (.modifyGet (.dispose _ _ _ _) (.log (.pure ⟨[_, _, _], rfl, ?_⟩)))
      simp only [Books.tell, Books.offer, Books.note, (Books.letGoAll_aside _ _).1]
      exact .surplus many excess rfl
    · rename_i within
      exact .log (.pure ⟨[_, _], rfl, .balanced many within⟩)

theorem logFailure_yields (needed : Nat) (error : String) (made : List Resource) (b : Books) :
    Yields (logFailure needed error made) b fun _ told left =>
      told = heard [.creationFailed needed error] ∧ left.store = b.store := by
  refine .apply (.aside rfl rfl rfl rfl rfl rfl) (((Yields.tell _).tryCatch ?_).weaken ?_)
  · exact fun failure b' => ⟨failure, b'.letGoAll made, rfl, .letGoAll b' made⟩
  · rintro _ _ _ ⟨rfl, rfl⟩
    exact ⟨rfl, rfl⟩

/-- A batch after the keeper took note of a call. -/
def Batch.noting (batch : Batch) (call : Resource) (supply : Supply) : Batch :=
  { batch with made := batch.made ++ madeIn [(call, supply)] }

theorem note_yields (batch : Batch) (call : Resource) (supply : Supply) (b : Books) :
    Yields (note batch call supply) b fun noted told left =>
      noted = batch.noting call supply ∧
        told = heard ((failuresIn [(call, supply)]).map (.creationFailed batch.needed ·)) ∧
          left.store = b.store := by
  have failing {error : String} (failed : supply.error? = some error) : Yields (do
      logFailure batch.needed error (batch.made ++ madeIn batch.ended)
      return batch) b fun noted told left => noted = batch.noting call supply ∧
        told = heard ((failuresIn [(call, supply)]).map (.creationFailed batch.needed ·)) ∧
          left.store = b.store := by
    refine (logFailure_yields batch.needed error _ b).bind ?_
    rintro _ _ left ⟨rfl, same⟩
    have unmade : supply ≠ .made := by
      rintro rfl
      contradiction
    exact .pure ⟨by simp [Batch.noting, madeIn, unmade], by simp [failuresIn, failed], same⟩
  unfold note
  cases supply with
  | made => exact .pure ⟨rfl, rfl, rfl⟩
  | failed error => exact failing rfl
  | panicked text => exact failing rfl

theorem admitBatch_yields (generation : Nat) (made : List Resource) (b : Books) :
    Yields (admitBatch generation made) b fun _ told left =>
      told = heard (closing made.length (generation = b.store.generation)) ∧
        left.store = offered b.store made generation := by
  unfold admitBatch
  split
  · rename_i none
    rw [List.isEmpty_iff.mp none]
    refine .pure ⟨rfl, ?_⟩
    unfold offered Store.admitAvailable
    split <;> rfl
  · rename_i some
    have positive : made.length ≠ 0 := fun none => some (List.isEmpty_iff_length_eq_zero.mpr none)
    refine .apply (.aside rfl rfl rfl rfl rfl rfl) (.books ?_)
    unfold offered Store.admitAvailable
    by_cases current : generation = b.store.generation
    · have current' : generation = (b.count .created made.length).store.generation := current
      rw [if_pos current', if_pos current]
      refine .apply (.aside rfl rfl rfl rfl rfl rfl) ((Yields.tell _).weaken ?_)
      rintro _ _ _ ⟨rfl, rfl⟩
      exact ⟨by rw [closing, if_neg positive, if_pos current], rfl⟩
    · have stale : ¬ generation = (b.count .created made.length).store.generation := current
      rw [if_neg stale, if_neg current]
      refine .apply (.letGoAll _ made) ((Yields.tell _).weaken ?_)
      rintro _ _ _ ⟨rfl, rfl⟩
      exact ⟨by rw [closing, if_neg positive, if_neg current], (Books.letGoAll_aside _ _).1⟩

/-- What a turn comes to in which the keeper takes note of an ended call. -/
inductive Collected (batch : Batch) (call : Resource) (supply : Supply) (store : Store Resource) :
    Option Batch → List Event → Store Resource → Prop
  | going : Collected batch call supply store (some ((batch.join call supply).noting call supply))
      ((failuresIn [(call, supply)]).map (.creationFailed batch.needed ·)) store
  | closed : batch.waiting = 0 → batch.running = [] → (batch.join call supply).ended = [] →
      Collected batch call supply store none
        ((failuresIn [(call, supply)]).map (.creationFailed batch.needed ·) ++
          closing (batch.made ++ madeIn [(call, supply)]).length
            (batch.generation = store.generation))
        (offered store (batch.made ++ madeIn [(call, supply)]) batch.generation)

theorem collect_yields (batch : Batch) (call : Resource) (supply : Supply) (b : Books) :
    Yields (collect batch call supply) b fun answer told left => ∃ events,
      told = heard events ∧ Collected batch call supply b.store answer events left.store := by
  refine (note_yields _ call supply b).bind ?_
  rintro _ _ b' ⟨rfl, rfl, same⟩
  split
  · rename_i complete
    obtain ⟨waiting, running, rest⟩ := Batch.isComplete_iff.mp complete
    refine (admitBatch_yields _ _ b').bind ?_
    rintro _ _ left ⟨rfl, stored⟩
    rw [same] at stored ⊢
    have closed : Collected batch call supply b.store none _ _ :=
      .closed waiting running rest
    refine .pure ⟨_, by rw [List.append_nil, ← heard_append], ?_⟩
    rw [stored]
    exact closed
  · refine .pure ⟨_, List.append_nil _, ?_⟩
    rw [same]
    exact .going

end Keeper

/-! ## The health care -/

namespace Health

/-- What is reported of the check of a slot. -/
def conclusion (slot : SlotId) : Verdict → List Event
  | .sound => [.keeping slot]
  | .broken => [.evicting slot]
  | .failed error => [.checkFailed slot error, .evicting slot]
  | .panicked _ => []

/-- A store after the check of a slot. -/
def judged (store : Store Resource) (slot : SlotId) (verdict : Verdict) : Store Resource :=
  if verdict.condemns then (store.remove slot).2 else store

/-- Slots that are not available are passed over, up to one that is or to the end of the cycle. -/
inductive Sought (checked : Nat) (store : Store Resource) (locked : Nat) :
    List SlotId → Option Round → List Event → Prop
  | ended : Sought checked store locked [] none
      [.checksCompleted checked locked, .checksFinished, .healthCycleFinished]
  | gone {slot : SlotId} {rest : List SlotId} {answer : Option Round} {events : List Event} :
      store.lockAvailable slot = none → Sought checked store locked rest answer events →
      Sought checked store locked (slot :: rest) answer (.unlockable slot :: events)
  | found {slot : SlotId} {rest : List SlotId} {resource : Resource} :
      store.lockAvailable slot = some resource →
      Sought checked store locked (slot :: rest) (some ⟨checked, locked + 1, slot, resource, rest⟩)
        [.locked slot, .checking slot]

theorem seek_yields (checked locked : Nat) (slots : List SlotId) (b : Books) :
    Yields (seek checked locked slots) b fun answer told left => ∃ events, told = heard events ∧
      Sought checked b.store locked slots answer events ∧ left.store = b.store := by
  induction slots generalizing b with
  | nil => exact .log (.log (.log (.pure ⟨_, rfl, .ended, rfl⟩)))
  | cons slot rest ih =>
      refine .books ?_
      cases locks : b.store.lockAvailable slot with
      | none =>
          refine .log ((ih (b.tell (.unlockable slot))).weaken ?_)
          rintro answer _ left ⟨events, rfl, sought, same⟩
          exact ⟨.unlockable slot :: events, rfl, .gone locks sought, same⟩
      | some resource =>
          exact .log (.log (.apply (.aside rfl rfl rfl rfl rfl rfl)
            (.pure ⟨[.locked slot, .checking slot], rfl, .found locks, rfl⟩)))

theorem survey_yields (b : Books) : Yields survey b fun answer told left => ∃ events,
    told = heard (.healthCycleStart :: .snapshot b.store.available.length :: events) ∧
      Sought b.store.available.length b.store 0 b.store.available answer events ∧
        left.store = b.store := by
  refine .log (.books (.log ((seek_yields _ _ _ _).weaken ?_)))
  rintro answer _ left ⟨events, rfl, sought, same⟩
  exact ⟨events, rfl, sought, same⟩

/-- The slot is taken off the books before the refusal of its event counts. -/
theorem evict_after (slot : SlotId) (b : Books) : ∃ left,
    Books.Adds [] (b.tell (.evicting slot)) left ∧ left.store = (b.store.remove slot).2 ∧
      (evict slot).after b = (match b.sink b.journal (.evicting slot) with
        | none => .ok ()
        | some refusal => .error (.logging refusal), left) := by
  have removed : Books.Adds [] (b.tell (.evicting slot))
      ((b.tell (.evicting slot)).remove slot).2 := by
    unfold Books.remove
    rcases (b.tell (.evicting slot)).store.remove slot with ⟨_ | resource, store⟩
    · exact .refl _
    · exact .aside rfl rfl rfl rfl rfl rfl
  unfold evict
  rw [Work.after_bind, Work.after_modifyGet]
  simp only
  rw [Work.after_bind, Work.after_modifyGet]
  have stored : ((b.tell (.evicting slot)).remove slot).2.store = (b.store.remove slot).2 :=
    Books.store_remove _ slot
  rcases taken : (b.tell (.evicting slot)).remove slot with ⟨_ | _, left⟩ <;>
    rw [taken] at removed stored <;> simp only [Books.tell] at taken <;> simp only [taken]
  · refine ⟨left, removed, stored, ?_⟩
    cases heard : b.sink b.journal (.evicting slot) <;> simp only [Books.offer, heard] <;> rfl
  · have counted : Books.Adds [] left (left.count .evicted 1) := .aside rfl rfl rfl rfl rfl rfl
    refine ⟨left.count .evicted 1, removed.trans counted, stored, ?_⟩
    cases heard : b.sink b.journal (.evicting slot) <;> simp only [Books.offer, heard] <;> rfl

theorem evict_yields (slot : SlotId) (b : Books) : Yields (evict slot) b fun _ told left =>
    told = heard [.evicting slot] ∧ left.store = (b.store.remove slot).2 := by
  obtain ⟨left, adds, stored, ended⟩ := evict_after slot b
  have told := (Books.Adds.tell b (.evicting slot)).trans adds
  unfold Yields
  rw [ended]
  cases refused : b.sink b.journal (.evicting slot) <;> rw [refused] at told
  · exact ⟨[.event (.evicting slot) false], told, rfl, stored⟩
  · exact ⟨[.event (.evicting slot) true], told, _, List.mem_singleton_self _⟩

theorem conclude_yields (slot : SlotId) (verdict : Verdict) (b : Books) :
    Yields (conclude slot verdict) b fun _ told left =>
      told = heard (conclusion slot verdict) ∧ left.store = judged b.store slot verdict := by
  cases verdict with
  | sound =>
      refine (Yields.tell _).weaken ?_
      rintro _ _ _ ⟨rfl, rfl⟩
      exact ⟨rfl, rfl⟩
  | broken => exact evict_yields slot b
  | failed error =>
      refine .log ((evict_yields slot _).weaken ?_)
      rintro _ _ _ ⟨rfl, stored⟩
      exact ⟨rfl, stored⟩
  | panicked text => exact .pure ⟨rfl, rfl⟩

theorem judge_yields (round : Round) (verdict : Verdict) (b : Books) :
    Yields (judge round verdict) b fun answer told left => ∃ events,
      told = heard (conclusion round.slot verdict ++ events) ∧
        Sought round.checked (judged b.store round.slot verdict) round.locked round.rest answer
          events ∧
        left.store = judged b.store round.slot verdict := by
  refine .apply (.aside rfl rfl rfl rfl rfl rfl) ((conclude_yields _ _ _).bind ?_)
  rintro _ _ b' ⟨rfl, stored⟩
  refine (seek_yields _ _ _ _).weaken ?_
  rintro answer _ left ⟨events, rfl, sought, same⟩
  exact ⟨events, (heard_append _ _).symm, stored ▸ sought, same.trans stored⟩

end Health
end ResourcePool
