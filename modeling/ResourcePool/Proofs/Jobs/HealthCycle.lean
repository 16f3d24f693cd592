import ResourcePool.Proofs.Jobs.WholeCycles

/-! What a cycle of the health care comes to. It goes through the slots that were available when it
began, while the store goes on changing between the turns in which checks end. -/
namespace ResourcePool

/-- The slot whose turn has come, by an event of the health care. -/
def Event.handled? : Event → Option SlotId
  | .unlockable slot | .checking slot => some slot
  | _ => none

namespace Health
variable {store : Store Resource} {slot : SlotId} {slots : List SlotId} {round : Round}
variable {opening turn last : Turn} {turns : List Turn} {checks : List (SlotId × Verdict)}
variable {events late : List Event} {checked locked : Nat} {quits : Bool}

/-- Slots one after another, with the turns in which their checks end. What counts for a slot is the
store when its turn comes: if the slot is not available then it is passed over, else it is checked
once, and is removed if its check condemns it. -/
inductive Sweeps : Store Resource → List SlotId → List Turn → List (SlotId × Verdict) →
    List Event → Prop
  | ended {store : Store Resource} : Sweeps store [] [] [] []
  | gone {store : Store Resource} {slot : SlotId} {rest : List SlotId} {turns : List Turn}
      {checks : List (SlotId × Verdict)} {events : List Event} :
      (∀ entry, store.slots.get? slot = some entry → entry.status ≠ .available) →
      Sweeps store rest turns checks events →
      Sweeps store (slot :: rest) turns checks (.unlockable slot :: events)
  | checked {store : Store Resource} {slot : SlotId} {entry : Slot Resource} {verdict : Verdict}
      {rest : List SlotId} {turn : Turn} {turns : List Turn} {checks : List (SlotId × Verdict)}
      {events : List Event} :
      store.slots.get? slot = some entry → entry.status = .available →
      turn.signal = .judge verdict → turn.after.store = judged turn.before.store slot verdict →
      Sweeps turn.after.store rest turns checks events →
      Sweeps store (slot :: rest) (turn :: turns) ((slot, verdict) :: checks)
        (.locked slot :: .checking slot :: conclusion slot verdict ++ events)

/-- What is reported at the end of a cycle. -/
def finale (checked locked : Nat) (quits : Bool) : List Event :=
  [.checksCompleted checked locked, .checksFinished, .healthCycleFinished] ++
    Job.farewell .healthStopped quits

/-- From the check that a round waits for to the end of its cycle. -/
inductive Finishes (round : Round) (quits : Bool) :
    List Turn → List (SlotId × Verdict) → List Event → Prop
  | judged {verdict : Verdict} {turn : Turn} {turns : List Turn}
      {checks : List (SlotId × Verdict)} {events : List Event} :
      turn.signal = .judge verdict →
      turn.after.store = judged turn.before.store round.slot verdict →
      Sweeps turn.after.store round.rest turns checks events →
      Finishes round quits (turn :: turns) ((round.slot, verdict) :: checks)
        (conclusion round.slot verdict ++ events ++
          finale round.checked (round.locked + checks.length) quits)

theorem Sought.ended_sweeps (sought : Sought checked store locked slots none events)
    (quits : Bool) : ∃ passed, Sweeps store slots [] [] passed ∧
      events ++ Job.farewell .healthStopped quits = passed ++ finale checked locked quits := by
  generalize ended : none = answer at sought
  induction sought with
  | ended => exact ⟨[], .ended, rfl⟩
  | gone unlockable _ ih =>
      obtain ⟨passed, sweeps, told⟩ := ih ended
      exact ⟨_, .gone (fun _ => Store.lockAvailable_none unlockable) sweeps,
        congrArg (Event.unlockable _ :: ·) told⟩
  | found => contradiction

theorem Sought.found_sweeps (sought : Sought checked store locked slots (some round) events)
    (finishes : Finishes round quits turns checks late) : ∃ passed,
      Sweeps store slots turns checks passed ∧
        events ++ late = passed ++ finale checked (locked + checks.length) quits := by
  generalize ended : some round = answer at sought
  induction sought with
  | ended => contradiction
  | gone unlockable _ ih =>
      obtain ⟨passed, sweeps, told⟩ := ih ended
      exact ⟨_, .gone (fun _ => Store.lockAvailable_none unlockable) sweeps,
        congrArg (Event.unlockable _ :: ·) told⟩
  | found locks =>
      cases ended
      obtain ⟨entry, stored, available, _⟩ := Store.lockAvailable_found locks
      cases finishes with
      | judged signal left sweeps =>
          refine ⟨_, .checked stored available signal left sweeps, ?_⟩
          simp [Nat.add_assoc, Nat.add_comm 1]

end Health

theorem Job.Responds.judges {j : Job} {b : Books} {signal : Signal} {work : Work Stage}
    {round : Health.Round} (responds : j.Responds b signal work)
    (standing : j.stage = .checking round) :
    ∃ verdict, signal = .judge verdict ∧ work = j.judge round verdict := by
  cases responds with
  | judge verdict found =>
      cases found.symm.trans standing
      exact ⟨verdict, rfl, rfl⟩
  | run found | wake found | launch found | deliver _ found | collect found | resolved _ found
  | tick _ _ found => cases found.symm.trans standing

theorem Turn.Takes.judges {turn : Turn} {job : JobId} {round : Health.Round}
    {reported : List Report} (takes : turn.Takes job .health (.checking round) reported)
    (awake : ∀ text, turn.signal ≠ .judge (.panicked text)) :
    ∃ verdict, turn.signal = .judge verdict ∧
      turn.Tells job reported fun stage told store => ∃ answer events,
        Job.Judged round verdict turn.before.store answer events store ∧
          Job.Resumes .healthStopped turn.quits .checking answer events stage told := by
  obtain ⟨_, responds, _⟩ := takes.works
  obtain ⟨verdict, signal, _⟩ := responds.judges takes.stage
  refine ⟨verdict, signal, takes.tells fun work responds => ?_⟩
  obtain ⟨_, same, rfl⟩ := responds.judges takes.stage
  cases signal.symm.trans same
  rw [Turn.quits, takes.kind]
  exact Job.judge_yields takes.kind round (fun text same => awake text (same ▸ signal)) _

/-- The turns of the health care from the middle of a cycle on. -/
theorem Sequel.finishes {job : JobId} {round : Health.Round} {reported : List Report}
    {front : List Turn} {last : Turn}
    (sequel : Sequel job .health (.checking round) reported front last)
    (awake : ∀ turn ∈ front ++ [last], ∀ text, turn.signal ≠ .judge (.panicked text)) :
    last.Closes job reported fun told => ∃ checks events,
      Health.Finishes round last.quits (front ++ [last]) checks events ∧
        told = heard events := by
  generalize standing : Stage.checking round = stage at sequel
  induction sequel generalizing round with
  | @last stage reported turn takes leaves =>
      subst standing
      obtain ⟨verdict, signal, tells⟩ := takes.judges (awake turn (by simp))
      refine tells.closes ?_
      rintro told ⟨_ | next, _, ⟨rest, rfl, sought, left⟩, resumes⟩
      · obtain ⟨_, rfl⟩ := resumes
        obtain ⟨passed, sweeps, same⟩ := sought.ended_sweeps turn.quits
        refine ⟨_, _, .judged signal left sweeps, ?_⟩
        rw [List.append_assoc, same, List.append_assoc]
        rfl
      · rw [resumes.1] at leaves
        contradiction
  | @next stage reported turn last middle takes midway _ ih =>
      subst standing
      obtain ⟨now, later⟩ := List.forall_mem_cons.mp awake
      obtain ⟨verdict, signal, tells⟩ := takes.judges now
      refine tells.leads midway ?_
      rintro told ⟨_ | next, _, ⟨rest, rfl, sought, left⟩, resumes⟩
      · cases midway.symm.trans resumes.1
      · obtain ⟨came, rfl⟩ := resumes
        -- The slots passed over in this turn belong before the check that the next one ends.
        refine ⟨_, ih later came.symm, ?_⟩
        rintro _ ⟨checks, events, finishes, rfl⟩
        obtain ⟨passed, sweeps, same⟩ := sought.found_sweeps finishes
        refine ⟨_, _, .judged signal left sweeps, ?_⟩
        rw [← heard_append, List.append_assoc, same, List.append_assoc]

theorem Turn.Takes.inspects {turn : Turn} {job : JobId} {stage : Stage} {reported : List Report}
    (takes : turn.Takes job .health stage reported) (begins : turn.begins = true) :
    turn.Tells job reported fun stage told store => ∃ answer events,
      Job.Inspected turn.before.store answer events store ∧
        Job.Resumes .healthStopped false .checking answer events stage told := by
  refine takes.opens nofun begins fun b store _ => ?_
  rw [← store]
  exact Job.inspect_yields true b

namespace Health

/-- What a cycle comes to by the slots that are available when it begins. -/
structure Cared (store : Store Resource) (opening : Turn) (turns : List Turn)
    (checks : List (SlotId × Verdict)) (events : List Event) (quits : Bool)
    (told : List Report) : Prop where
  opens : opening.after.store = store
  sweeps : Sweeps store store.available turns checks events
  told : told = heard (.healthCycleStart :: .snapshot store.available.length :: events ++
    finale store.available.length checks.length quits)

end Health

/-- The turns of the health care from the one in which a cycle begins. -/
theorem Sequel.cares {job : JobId} {stage : Stage} {reported : List Report} {front : List Turn}
    {opening last : Turn} {turns : List Turn}
    (sequel : Sequel job .health stage reported front last)
    (split : front ++ [last] = opening :: turns) (begins : opening.begins = true)
    (awake : ∀ turn ∈ front ++ [last], ∀ text, turn.signal ≠ .judge (.panicked text)) :
    last.Closes job reported fun told => ∃ checks events,
      Health.Cared opening.before.store opening turns checks events last.quits told := by
  cases sequel with
  | last takes leaves =>
      obtain ⟨same, rfl⟩ : last = opening ∧ [] = turns := List.cons.inj split
      subst same
      refine (takes.inspects begins).closes ?_
      rintro told ⟨_ | round, _, ⟨rest, rfl, sought, stored⟩, resumes⟩
      · obtain ⟨_, rfl⟩ := resumes
        obtain ⟨passed, sweeps, same⟩ := sought.ended_sweeps false
        refine ⟨[], passed, stored, sweeps, ?_⟩
        rw [Turn.quits_of_begins begins]
        exact congrArg (fun events => heard (_ :: _ :: events)) same
      · rw [resumes.1] at leaves
        contradiction
  | @next _ _ turn last middle takes midway later =>
      obtain ⟨rfl, rfl⟩ := List.cons.inj split
      refine (takes.inspects begins).leads midway ?_
      rintro told ⟨_ | round, _, ⟨rest, rfl, sought, stored⟩, resumes⟩
      · cases midway.symm.trans resumes.1
      · obtain ⟨came, rfl⟩ := resumes
        rw [came] at later
        refine ⟨_, later.finishes (List.forall_mem_cons.mp awake).2, ?_⟩
        rintro _ ⟨checks, events, finishes, rfl⟩
        obtain ⟨passed, sweeps, same⟩ := sought.found_sweeps finishes
        rw [Nat.zero_add] at same
        refine ⟨checks, passed, stored, sweeps, ?_⟩
        rw [← heard_append]
        exact congrArg (fun events => heard (_ :: _ :: events)) same

/-! ## What follows -/

namespace Health
variable {store : Store Resource} {slot other : SlotId} {slots : List SlotId} {verdict : Verdict}
variable {opening turn last : Turn} {turns : List Turn} {checks : List (SlotId × Verdict)}
variable {events : List Event}

/-- Slots whose checks condemned them. -/
def condemnedIn (checks : List (SlotId × Verdict)) : List SlotId :=
  (checks.filter (·.2.condemns)).map Prod.fst

theorem condemnedIn_cons (slot : SlotId) (verdict : Verdict) (checks : List (SlotId × Verdict)) :
    condemnedIn ((slot, verdict) :: checks) =
      if verdict.condemns then slot :: condemnedIn checks else condemnedIn checks := by
  cases condemned : verdict.condemns <;> simp [condemnedIn, condemned]

theorem get?_judged (store : Store Resource) (slot other : SlotId) (verdict : Verdict) :
    (judged store slot verdict).slots.get? other =
      if other = slot ∧ verdict.condemns then none else store.slots.get? other := by
  unfold judged
  by_cases condemned : verdict.condemns = true
  · rw [if_pos condemned]
    by_cases same : other = slot
    · rw [if_pos ⟨same, condemned⟩, same, Store.get?_remove]
    · rw [if_neg (fun both => same both.1), Store.get?_remove_of_ne _ same]
  · rw [if_neg condemned, if_neg (fun both => condemned both.2)]

theorem judged_sound (sound : store.Sound) (slot : SlotId) (verdict : Verdict) :
    (judged store slot verdict).Sound := by
  unfold judged
  split
  · exact sound.remove slot
  · exact sound

theorem handled_conclusion (slot : SlotId) (verdict : Verdict) :
    (conclusion slot verdict).filterMap Event.handled? = [] := by
  cases verdict <;> rfl

namespace Sweeps

theorem handled (sweeps : Sweeps store slots turns checks events) :
    events.filterMap Event.handled? = slots := by
  induction sweeps with
  | ended => rfl
  | @gone _ slot _ _ _ _ _ _ ih => exact congrArg (slot :: ·) ih
  | @checked _ slot _ verdict rest _ _ _ events _ _ _ _ _ ih =>
      have later : (conclusion slot verdict ++ events).filterMap Event.handled? = rest := by
        rw [List.filterMap_append, handled_conclusion, ih, List.nil_append]
      exact congrArg (slot :: ·) later

theorem sublist (sweeps : Sweeps store slots turns checks events) :
    (checks.map Prod.fst).Sublist slots := by
  induction sweeps with
  | ended => exact .slnil
  | gone _ _ ih => exact ih.cons _
  | checked _ _ _ _ _ ih => exact ih.cons_cons _

/-- In each turn the checked slot is removed if it is condemned, and nothing else changes. -/
theorem removes (sweeps : Sweeps store slots turns checks events) :
    List.Forall₂ (fun turn check => ∀ slot, turn.after.store.slots.get? slot =
      if slot = check.1 ∧ check.2.condemns then none else turn.before.store.slots.get? slot)
      turns checks := by
  induction sweeps with
  | ended => exact .nil
  | gone _ _ ih => exact ih
  | checked _ _ _ left _ ih => exact .cons (fun _ => left ▸ get?_judged ..) ih

/-- A store that nobody else touches loses exactly the slots that are condemned. -/
theorem undisturbed (sweeps : Sweeps store slots turns checks events) (sound : store.Sound)
    (idle : ∀ slot ∈ slots, slot ∈ store.available) (distinct : slots.Nodup)
    (opens : opening.after.store = store) (seamless : Seamless (opening :: turns)) :
    checks.map Prod.fst = slots ∧ ∀ last ∈ (opening :: turns).getLast?, last.after.store =
      { store with
        slots := store.slots.eraseAll (condemnedIn checks)
        available := store.available.filter (· ∉ condemnedIn checks) } := by
  -- The slots that are left stay available, as only the one whose turn it is can go.
  induction sweeps generalizing opening with
  | @ended store =>
      subst opens
      refine ⟨rfl, ?_⟩
      rintro _ ⟨⟩
      simp [condemnedIn, Table.eraseAll]
  | @gone store slot _ _ _ _ missing _ ih =>
      obtain ⟨entry, stored, available⟩ := sound.queued (idle slot List.mem_cons_self)
      exact absurd available (missing entry stored)
  | @checked store slot entry verdict rest turn turns checks events stored available _ left _ ih =>
      obtain ⟨same, seamless⟩ := List.isChain_cons_cons.mp seamless
      obtain ⟨absent, distinct⟩ := List.nodup_cons.mp distinct
      rw [same, opens] at left
      have idle' : ∀ other ∈ rest, other ∈ store.available :=
        fun other member => idle other (List.mem_cons_of_mem _ member)
      rw [List.getLast?_cons_cons]
      by_cases condemned : verdict.condemns = true
      · have removed : turn.after.store = { store with
            slots := store.slots.erase slot
            available := store.available.filter (· ≠ slot) } := by
          rw [left, judged, if_pos condemned]
          simp only [Store.remove, stored, if_pos available]
        have idle'' : ∀ other ∈ rest, other ∈ turn.after.store.available := by
          intro other member
          rw [removed]
          refine List.mem_filter.mpr ⟨idle' other member, ?_⟩
          exact decide_eq_true fun same => absent (same ▸ member)
        have sound' := left ▸ judged_sound sound slot verdict
        obtain ⟨all, ends⟩ := ih sound' idle'' distinct rfl seamless
        refine ⟨congrArg (slot :: ·) all, fun last ending => (ends last ending).trans ?_⟩
        rw [removed, condemnedIn_cons, if_pos condemned]
        simp [Table.eraseAll, List.filter_filter, Bool.and_comm]
      · have kept : turn.after.store = store := by rw [left, judged, if_neg condemned]
        obtain ⟨all, ends⟩ := ih (kept ▸ sound) (kept ▸ idle') distinct rfl seamless
        refine ⟨congrArg (slot :: ·) all, fun last ending => (ends last ending).trans ?_⟩
        rw [kept, condemnedIn_cons, if_neg condemned]

end Sweeps
end Health

namespace System

/-- Whatever else happens to the pool while checks are going on: a cycle of the health care handles
each slot that was available when it began once and in order. It passes over those that are not
available when their turn comes, checks the others, removes those that their checks condemn and
nothing else, and counts both. If nobody else touches the store then all are checked, and only the
condemned ones are gone. -/
theorem health_cycle (id : Nat) (settings : Settings) (sink : Sink) (early moves : List Action)
    (job : JobId) (front : List Turn) (last : Turn) :
    let s := (ofSettings id settings sink).run early
    let store := s.books.store
    let snapshot := store.available
    s.WholeCycle job moves front last → last.standing.kind = .health →
      (∀ turn ∈ front ++ [last], ∀ text, turn.signal ≠ .judge (.panicked text)) →
      ∃ told, (s.run moves).books.reportsOf (some job) =
          told.reverse ++ s.books.reportsOf (some job) ∧
        (¬ Unheard told → ∃ opening turns checks events, front ++ [last] = opening :: turns ∧
          Health.Cared store opening turns checks events last.quits told ∧
          snapshot.Nodup ∧ events.filterMap Event.handled? = snapshot ∧
          (checks.map Prod.fst).Sublist snapshot ∧
          List.Forall₂ (fun turn check => ∀ slot, turn.after.store.slots.get? slot =
            if slot = check.1 ∧ check.2.condemns then none
            else turn.before.store.slots.get? slot) turns checks ∧
          (Seamless (front ++ [last]) → checks.map Prod.fst = snapshot ∧
            last.after.store = { store with
              slots := store.slots.eraseAll (Health.condemnedIn checks)
              available := snapshot.filter (· ∉ Health.condemnedIn checks) } ∧
            ∀ slot entry, store.slots.get? slot = some entry → entry.status = .leased →
              last.after.store.slots.get? slot = some entry)) := by
  intro s store snapshot whole health awake
  have orderly : s.Orderly := (orderly_ofSettings id settings sink).run early
  have attributed : s.Attributed := (attributed_ofSettings id settings sink).run early
  have sound : store.Sound := orderly.custody.sound
  obtain ⟨⟨stage, sequel⟩, reported, _, opening, turns, split, begins, opens⟩ :=
    whole.sequel orderly attributed
  rw [health] at sequel
  obtain ⟨told, report, ends⟩ := sequel.cares split begins awake
  rw [opens] at ends
  refine ⟨told, reported.trans report, fun silent => ?_⟩
  obtain ⟨checks, events, cared⟩ := ends.resolve_left silent
  refine ⟨opening, turns, checks, events, split, cared, sound.queue_distinct, cared.sweeps.handled,
    cared.sweeps.sublist, cared.sweeps.removes, fun seamless => ?_⟩
  obtain ⟨all, left⟩ := cared.sweeps.undisturbed sound (fun _ member => member)
    sound.queue_distinct cared.opens (split ▸ seamless)
  have stored := left last (by rw [← split]; exact List.getLast?_concat)
  refine ⟨all, stored, fun slot entry found leased => ?_⟩
  have spared : slot ∉ Health.condemnedIn checks := by
    intro member
    have checked : slot ∈ checks.map Prod.fst :=
      List.map_subset _ (List.filter_subset_self _) member
    exact sound.unqueued found leased (cared.sweeps.sublist.subset checked)
  rw [stored]
  exact (Table.get?_eraseAll ..).trans ((if_neg spared).trans found)

/-- While the first of two slots is checked, somebody leases the second one. -/
theorem health_cycle_overtaken :
    let s := (ofSettings 1 { hasCheck := true } .accepting).run [.get, .supply 0 .made, .get,
      .supply 2 .made, .dropLease 1, .dropLease 3, .start .health]
    let moves := [.signal 5 .run, .tryGet, .signal 5 (.judge .broken)]
    ∃ front last told opening turns checks events, s.WholeCycle 5 moves front last ∧
      last.standing.kind = .health ∧
      (∀ turn ∈ front ++ [last], ∀ text, turn.signal ≠ .judge (.panicked text)) ∧
      (s.run moves).books.reportsOf (some 5) = told.reverse ++ s.books.reportsOf (some 5) ∧
      ¬ Unheard told ∧ front ++ [last] = opening :: turns ∧
      Health.Cared s.books.store opening turns checks events last.quits told ∧
      events.filterMap Event.handled? = [⟨0⟩, ⟨1⟩] ∧
      (s.run moves).books.trace 5 = [.healthCycleStart, .snapshot 2, .locked ⟨0⟩, .checking ⟨0⟩,
        .evicting ⟨0⟩, .unlockable ⟨1⟩, .checksCompleted 2 1, .checksFinished,
        .healthCycleFinished] ∧
      last.after.store.slots.keys = [⟨1⟩] := by
  intro s moves
  let opening := (s.turn? (.signal 5 .run)).get (by decide +kernel)
  let last := (((s.step (.signal 5 .run)).run [.tryGet]).turn? (.signal 5 (.judge .broken))).get
    (by decide +kernel)
  have opens : s.turn? (.signal 5 .run) = some opening := (Option.some_get _).symm
  have closes : ((s.step (.signal 5 .run)).run [.tryGet]).turn? (.signal 5 (.judge .broken)) =
      some last := (Option.some_get _).symm
  have whole : s.WholeCycle 5 moves
      (opening :: (s.step (.signal 5 .run)).turnsOf 5 [.tryGet]) last :=
    .long opens (by decide +kernel) (by decide +kernel) (by decide +kernel) (by decide +kernel)
      closes (by decide +kernel) (by decide +kernel)
  have health : last.standing.kind = .health := by decide +kernel
  have awake : ∀ turn ∈ opening :: (s.step (.signal 5 .run)).turnsOf 5 [.tryGet] ++ [last],
      ∀ text, turn.signal ≠ .judge (.panicked text) := by
    have between : (s.step (.signal 5 .run)).turnsOf 5 [.tryGet] = [] := rfl
    have first : opening.signal = .run := rfl
    have second : last.signal = .judge .broken := rfl
    simp [between, first, second]
  obtain ⟨told, reported, comes⟩ := health_cycle 1 { hasCheck := true } .accepting _ moves 5 _ last
    whole health awake
  have heard : ¬ Unheard ((s.run moves).books.reportsOf (some 5)) := by decide +kernel
  have silent : ¬ Unheard told := fun unheard => heard (reported ▸ unheard.after _)
  obtain ⟨opening', turns, checks, events, split, cared, _, handled, _⟩ := comes silent
  exact ⟨_, last, told, opening', turns, checks, events, whole, health, awake, reported, silent,
    split, cared, handled.trans (by decide +kernel), by decide +kernel, by decide +kernel⟩

end System
end ResourcePool
