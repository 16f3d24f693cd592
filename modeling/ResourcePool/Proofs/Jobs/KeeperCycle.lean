import ResourcePool.Proofs.Jobs.WholeCycles
import ResourcePool.Proofs.System.Clearing

/-! What a cycle of the keeper comes to. It decides by what is available when it begins; what it
makes is admitted together, whatever has become of the population by then but for a clearing. -/
namespace ResourcePool
open Work (Yields)

/-- The factory call that a report tells of the begin of. -/
def Report.calling? : Report → Option Resource
  | .factoryCalled call => some call
  | _ => none

/-- Factory calls that began, by some reports. -/
def calledIn (told : List Report) : List Resource := told.filterMap Report.calling?

/-- Factory calls that ended, by some reports. -/
def endedIn (told : List Report) : List (Resource × Supply) := told.filterMap Report.ending?

/-- Events that were offered, by some reports in their order. -/
def eventsIn (told : List Report) : List Event := told.filterMap Report.event?

section
variable (events : List Event) (early late : List Report)

@[simp] theorem calledIn_append : calledIn (early ++ late) = calledIn early ++ calledIn late :=
  List.filterMap_append

@[simp] theorem endedIn_append : endedIn (early ++ late) = endedIn early ++ endedIn late :=
  List.filterMap_append

@[simp] theorem eventsIn_append : eventsIn (early ++ late) = eventsIn early ++ eventsIn late :=
  List.filterMap_append

@[simp] theorem calledIn_heard : calledIn (heard events) = [] := by
  simp [calledIn, heard, Report.calling?]

@[simp] theorem endedIn_heard : endedIn (heard events) = [] := by
  simp [endedIn, heard, Report.ending?]

@[simp] theorem eventsIn_heard : eventsIn (heard events) = events := by
  simp [eventsIn, heard, Report.event?, Function.comp_def]

end

namespace Keeper
variable {batch : Batch} {store store' : Store Resource} {stage : Stage}
variable {told : List Report}

theorem failuresIn_append (early late : List (Resource × Supply)) :
    failuresIn (early ++ late) = failuresIn early ++ failuresIn late := List.filterMap_append

/-- What a turn of the keeper comes to in the middle of a batch. -/
inductive Worked (batch : Batch) (store : Store Resource) (quits : Bool) :
    Stage → List Report → Store Resource → Prop
  | launched (call : Resource) : 0 < batch.waiting →
      Worked batch store quits
        (.creating { batch with
          waiting := batch.waiting - 1, running := batch.running ++ [call] })
        [.factoryCalled call] store
  | delivered {call : Resource} (supply : Supply) : call ∈ batch.running →
      Worked batch store quits
        (.creating { batch with
          running := batch.running.erase call, ended := batch.ended ++ [(call, supply)] })
        [.factoryEnded call supply] store
  | collected {call : Resource} {supply : Supply} {answer : Option Batch} {events : List Event}
      {stage : Stage} {told : List Report} {store' : Store Resource} :
      (call, supply) ∈ batch.ended → Collected batch call supply store answer events store' →
      Job.Resumes .keeperStopped quits .creating answer events stage told →
      Worked batch store quits stage told store'

theorem worked {j : Job} {b : Books} {signal : Signal} {work : Work Stage}
    (responds : j.Responds b signal work) (keeper : j.kind = .keeper)
    (standing : j.stage = .creating batch) (actor : Option JobId) :
    Yields work { b with actor } fun stage told left =>
      Worked batch b.store (Job.quits .keeper j.enabled b) stage told left.store := by
  have same {other : Batch} (found : j.stage = .creating other) : other = batch :=
    Stage.creating.inj (found.symm.trans standing)
  cases responds with
  | launch found waiting =>
      cases same found
      exact ⟨[_], Job.callFactory_adds _, .launched _ waiting⟩
  | deliver supply found running =>
      cases same found
      refine ⟨[_], Job.endCall_adds _ _ supply, ?_⟩
      cases supply <;> exact .delivered _ running
  | collect found ended =>
      cases same found
      refine (Job.collect_yields keeper batch _ _ _).weaken ?_
      rintro stage told left ⟨answer, events, collected, resumes⟩
      exact .collected ended collected resumes
  | run found | wake found | judge _ found | resolved _ found | tick _ _ found =>
      cases found.symm.trans standing

end Keeper

/-- What the turns of the keeper from the middle of a batch up to its end come to: all calls that
are left begin, all that are out end, and the keeper takes note of all in some order. -/
structure Fills (batch : Keeper.Batch) (front : List Turn) (last : Turn)
    (taken : List (Resource × Supply)) (told : List Report) : Prop where
  begun : (calledIn told).length = batch.waiting
  ended : ((endedIn told).map Prod.fst).Perm (batch.running ++ calledIn told)
  noted : taken.Perm (batch.ended ++ endedIn told)
  events : eventsIn told = (Keeper.failuresIn taken).map (.creationFailed batch.needed ·) ++
    Keeper.closing (batch.made ++ Keeper.madeIn taken).length
      (batch.generation = last.before.store.generation) ++
    Job.farewell .keeperStopped last.quits
  apart : ∀ turn ∈ front, turn.after.store = turn.before.store
  admitted : last.after.store =
    Keeper.offered last.before.store (batch.made ++ Keeper.madeIn taken) batch.generation

namespace Fills
variable {batch : Keeper.Batch} {front : List Turn} {turn last : Turn}
variable {taken : List (Resource × Supply)} {told : List Report} {call : Resource}

theorem launched (fills : Fills { batch with
      waiting := batch.waiting - 1, running := batch.running ++ [call] } front last taken told)
    (waiting : 0 < batch.waiting) (same : turn.after.store = turn.before.store) :
    Fills batch (turn :: front) last taken (.factoryCalled call :: told) where
  begun := by
    have begun := fills.begun
    simp only [calledIn, List.filterMap_cons, Report.calling?, List.length_cons] at begun ⊢
    omega
  ended := by
    have ended := fills.ended
    rwa [List.append_assoc] at ended
  noted := fills.noted
  events := fills.events
  apart := List.forall_mem_cons.mpr ⟨same, fills.apart⟩
  admitted := fills.admitted

theorem delivered {supply : Supply} (fills : Fills { batch with
      running := batch.running.erase call, ended := batch.ended ++ [(call, supply)] }
        front last taken told)
    (running : call ∈ batch.running) (same : turn.after.store = turn.before.store) :
    Fills batch (turn :: front) last taken (.factoryEnded call supply :: told) where
  begun := fills.begun
  ended := by
    have kept : (call :: batch.running.erase call ++ calledIn told).Perm
        (batch.running ++ calledIn told) :=
      (List.perm_cons_erase running).symm.append_right _
    exact (fills.ended.cons call).trans kept
  noted := by
    have noted := fills.noted
    rwa [List.append_assoc] at noted
  events := fills.events
  apart := List.forall_mem_cons.mpr ⟨same, fills.apart⟩
  admitted := fills.admitted

theorem collected {supply : Supply} (out : (call, supply) ∈ batch.ended)
    (fills : Fills ((batch.join call supply).noting call supply) front last taken told)
    (same : turn.after.store = turn.before.store) :
    Fills batch (turn :: front) last ((call, supply) :: taken)
      (heard ((Keeper.failuresIn [(call, supply)]).map (.creationFailed batch.needed ·)) ++ told)
    where
  begun := by
    rw [calledIn_append, calledIn_heard]
    exact fills.begun
  ended := by
    rw [calledIn_append, calledIn_heard, endedIn_append, endedIn_heard]
    exact fills.ended
  noted := by
    have whole := (fills.noted.cons (call, supply)).trans
      ((List.perm_cons_erase out).symm.append_right (endedIn told))
    rwa [endedIn_append, endedIn_heard, List.nil_append]
  events := by
    have made := Keeper.madeIn_append [(call, supply)] taken
    have failed := Keeper.failuresIn_append [(call, supply)] taken
    rw [List.singleton_append] at made failed
    rw [eventsIn_append, eventsIn_heard, fills.events, made, failed, List.map_append,
      ← List.append_assoc batch.made, List.append_assoc, List.append_assoc, List.append_assoc]
    rfl
  apart := List.forall_mem_cons.mpr ⟨same, fills.apart⟩
  admitted := by
    have made := Keeper.madeIn_append [(call, supply)] taken
    rw [List.singleton_append] at made
    rw [made, ← List.append_assoc]
    exact fills.admitted

theorem closed {supply : Supply} (waiting : batch.waiting = 0) (running : batch.running = [])
    (out : (call, supply) ∈ batch.ended) (rest : (batch.join call supply).ended = [])
    (admitted : last.after.store = Keeper.offered last.before.store
      (batch.made ++ Keeper.madeIn [(call, supply)]) batch.generation) :
    Fills batch [] last [(call, supply)] (heard
      ((Keeper.failuresIn [(call, supply)]).map (.creationFailed batch.needed ·) ++
        Keeper.closing (batch.made ++ Keeper.madeIn [(call, supply)]).length
          (batch.generation = last.before.store.generation) ++
        Job.farewell .keeperStopped last.quits)) where
  begun := by simp [waiting]
  ended := by simp [running]
  noted := by
    have whole := (List.perm_cons_erase out).symm
    rw [endedIn_heard, List.append_nil]
    exact rest ▸ whole
  events := eventsIn_heard _
  apart := by simp
  admitted := admitted

end Fills

theorem Turn.Takes.works_on {turn : Turn} {job : JobId} {batch : Keeper.Batch}
    {reported : List Report} (takes : turn.Takes job .keeper (.creating batch) reported) :
    turn.Tells job reported fun stage told store =>
      Keeper.Worked batch turn.before.store turn.quits stage told store :=
  takes.tells fun _ responds => by
    rw [Turn.quits, takes.kind]
    exact Keeper.worked responds takes.kind takes.stage (some turn.job)

/-- The turns of the keeper from the middle of a batch on. -/
theorem Sequel.fills {job : JobId} {batch : Keeper.Batch} {reported : List Report}
    {front : List Turn} {last : Turn}
    (sequel : Sequel job .keeper (.creating batch) reported front last) :
    last.Closes job reported fun told => ∃ taken, Fills batch front last taken told := by
  generalize standing : Stage.creating batch = stage at sequel
  -- What the later turns come to is told of the batch as the first one left it.
  induction sequel generalizing batch with
  | @last stage reported turn takes leaves =>
      subst standing
      refine takes.works_on.closes fun told worked => ?_
      generalize turn.stage = stage at worked leaves
      generalize stored : turn.after.store = store at worked
      cases worked with
      | launched | delivered => contradiction
      | collected out collected resumes =>
          cases collected with
          | going =>
              obtain ⟨rfl, _⟩ := resumes
              contradiction
          | closed waiting running rest =>
              obtain ⟨_, rfl⟩ := resumes
              exact ⟨_, .closed waiting running out rest stored⟩
  | @next stage reported turn last middle takes midway _ ih =>
      subst standing
      refine takes.works_on.leads midway fun told worked => ?_
      generalize came : turn.stage = stage at worked midway
      generalize stored : turn.after.store = store at worked
      cases worked with
      | launched call waiting =>
          refine ⟨_, ih came.symm, ?_⟩
          rintro late ⟨taken, fills⟩
          exact ⟨taken, fills.launched waiting stored⟩
      | delivered supply running =>
          refine ⟨_, ih came.symm, ?_⟩
          rintro late ⟨taken, fills⟩
          exact ⟨taken, fills.delivered running stored⟩
      | collected out collected resumes =>
          cases collected with
          | going =>
              obtain ⟨rfl, rfl⟩ := resumes
              refine ⟨_, ih came.symm, ?_⟩
              rintro late ⟨taken, fills⟩
              exact ⟨_, fills.collected out stored⟩
          | closed =>
              obtain ⟨leaves, _⟩ := resumes
              cases midway.symm.trans leaves

/-! ## Whole cycles -/

namespace Keeper

/-- What a cycle comes to that finds too little available: so many factory calls begin as are
needed, all of them end, and what they made is offered to the store together, in the order in which
the keeper took note. -/
structure Filled (store : Store Resource) (needed : Nat) (front : List Turn) (last : Turn)
    (taken : List (Resource × Supply)) (told : List Report) : Prop where
  begun : (calledIn told).length = needed
  ended : ((endedIn told).map Prod.fst).Perm (calledIn told)
  noted : taken.Perm (endedIn told)
  total : (madeIn taken).length + (failuresIn taken).length = needed
  events : ∃ used size, eventsIn told =
    .keeperCycleStart :: .tooFew store.available.length needed used size ::
      (failuresIn taken).map (.creationFailed needed ·) ++
    closing (madeIn taken).length (store.generation = last.before.store.generation) ++
    Job.farewell .keeperStopped last.quits
  apart : ∀ turn ∈ front, turn.after.store = turn.before.store
  admitted : last.after.store =
    if store.generation = last.before.store.generation then
      last.before.store.insertAll (madeIn taken)
    else last.before.store

/-- What a cycle comes to, by the store and the tuning at its begin. -/
inductive Effect (store : Store Resource) (tuning : Tuning) :
    List Turn → Turn → List Report → Prop
  | filled {front : List Turn} {last : Turn} {taken : List (Resource × Supply)}
      {told : List Report} : store.available.length < tuning.minSpare →
      Filled store (tuning.minSpare - store.available.length) front last taken told →
      Effect store tuning front last told
  | disposed {last : Turn} {excess : Nat} : ¬ store.available.length < tuning.minSpare →
      tuning.maxSpare < store.available.length →
      excess = store.available.length - tuning.maxSpare → last.before.store = store →
      last.after.store = { store with
        slots := store.slots.eraseAll (store.available.take excess)
        available := store.available.drop excess } →
      Effect store tuning [] last (heard [.keeperCycleStart,
        .tooMany store.available.length excess, .disposing excess])
  | balanced {last : Turn} {used size : Nat} : ¬ store.available.length < tuning.minSpare →
      ¬ tuning.maxSpare < store.available.length → last.before.store = store →
      last.after.store = store →
      Effect store tuning [] last
        (heard [.keeperCycleStart, .populationOk store.available.length used size])

variable {tuning : Tuning} {front : List Turn} {turn last : Turn}

theorem offered_eq (store : Store Resource) (made : List Resource) (generation : Nat) :
    offered store made generation =
      if generation = store.generation then store.insertAll made else store := by
  unfold offered Store.admitAvailable
  split <;> rfl

theorem Filled.of_fills {store : Store Resource} {needed used size : Nat}
    {taken : List (Resource × Supply)} {told : List Report}
    (fills : Fills ⟨needed, store.generation, needed, [], [], []⟩ front last taken told)
    (same : turn.after.store = turn.before.store) :
    Filled store needed (turn :: front) last taken
      (heard [.keeperCycleStart, .tooFew store.available.length needed used size] ++ told) where
  begun := by simpa using fills.begun
  ended := by simpa using fills.ended
  noted := by simpa using fills.noted
  total := by
    have calls := fills.ended.length_eq
    have noted := fills.noted.length_eq
    have begun := fills.begun
    simp only [List.nil_append, List.length_map] at calls noted begun
    rw [length_madeIn, noted, calls, begun]
  events := ⟨used, size, by simp [fills.events]⟩
  apart := List.forall_mem_cons.mpr ⟨same, fills.apart⟩
  admitted := fills.admitted.trans (offered_eq ..)

/-! ### What follows -/

end Keeper

theorem Turn.Takes.surveys {turn : Turn} {job : JobId} {stage : Stage} {reported : List Report}
    (takes : turn.Takes job .keeper stage reported) (begins : turn.begins = true) :
    turn.Tells job reported fun stage told store => ∃ answer events,
      Keeper.Surveyed turn.before.store turn.before.tuning answer events store ∧
        Job.Resumes .keeperStopped false .creating answer events stage told := by
  refine takes.opens nofun begins fun b store tuning => ?_
  rw [← store, ← tuning]
  exact Job.survey_yields true b

/-- The turns of the keeper from the one in which a cycle begins. -/
theorem Sequel.keeps {job : JobId} {stage : Stage} {reported : List Report} {front : List Turn}
    {opening last : Turn} {rest : List Turn} (sequel : Sequel job .keeper stage reported front last)
    (split : front ++ [last] = opening :: rest) (begins : opening.begins = true) :
    last.Closes job reported
      (Keeper.Effect opening.before.store opening.before.tuning front last) := by
  cases sequel with
  | last takes leaves =>
      have same : last = opening := (List.cons.inj split).1
      subst same
      refine (takes.surveys begins).closes ?_
      rintro told ⟨answer, events, surveyed, resumes⟩
      generalize stored : last.after.store = store at surveyed
      cases surveyed with
      | lacking =>
          rw [resumes.1] at leaves
          contradiction
      | surplus many excess remove =>
          obtain ⟨_, rfl⟩ := resumes
          rw [takes.sound.length_dispose, Nat.min_eq_left (by omega)]
          exact .disposed many excess remove rfl (stored.trans (by rw [takes.sound.dispose_eq]))
      | balanced many within =>
          obtain ⟨_, rfl⟩ := resumes
          exact .balanced many within rfl stored
  | @next _ _ turn last middle takes midway later =>
      obtain ⟨rfl, rfl⟩ := List.cons.inj split
      refine (takes.surveys begins).leads midway ?_
      rintro told ⟨answer, events, surveyed, resumes⟩
      generalize stored : turn.after.store = store at surveyed
      cases surveyed with
      | lacking few remove =>
          obtain ⟨came, rfl⟩ := resumes
          rw [came] at later
          refine ⟨_, later.fills, ?_⟩
          rintro late ⟨taken, fills⟩
          subst remove
          exact .filled few (.of_fills fills stored)
      | surplus | balanced => cases midway.symm.trans resumes.1

namespace System

end System
end ResourcePool
