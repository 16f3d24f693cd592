import ResourcePool.Proofs.Jobs.Cycling
import ResourcePool.Proofs.Upkeep.Yields

/-! The turns of a cycle. A job takes them one after another, each where the last one left it, while
others do what they like in between. -/
namespace ResourcePool
open Work (Yields)

/-! ## Parts of a cycle -/

namespace Job
variable {α : Type} {kind : JobKind} {enabled : Bool} {j : Job}

/-- Whether a job leaves its loop in good order after a cycle: it was asked to stop, and the clock
can tell the end of its pause. -/
def quits (kind : JobKind) (enabled : Bool) (b : Books) : Bool := !enabled && (nap? b kind).isSome

theorem quits_congr {b left : Books} (steady : b.Steady left) (kind : JobKind) (enabled : Bool) :
    quits kind enabled left = quits kind enabled b := by
  rw [quits, nap?_congr steady, quits]

/-- What a job reports after a cycle. -/
def farewell (stopped : Event) (quits : Bool) : List Event := if quits then [stopped] else []

theorem pause_yields (policy : Policy) (other : kind ≠ .management) (enabled : Bool) (b : Books) :
    Yields (pause kind enabled) b fun stage told left => stage.isMidway = false ∧
      told = heard (farewell (kind.stopped policy) (quits kind enabled b)) ∧
        left.store = b.store := by
  refine .books ?_
  unfold quits
  cases nap? b kind with
  | none => exact .pure ⟨rfl, by simp [farewell, heard], rfl⟩
  | some nap =>
      cases enabled with
      | true => exact .pure ⟨rfl, rfl, rfl⟩
      | false =>
          cases kind with
          | keeper | health => exact .log (.pure ⟨rfl, rfl, rfl⟩)
          | management => contradiction

/-- After a part of a cycle a job waits for the next one, or the cycle is over. -/
def Resumes (stopped : Event) (quits : Bool) (wait : α → Stage) :
    Option α → List Event → Stage → List Report → Prop
  | some a, events, stage, told => stage = wait a ∧ told = heard events
  | none, events, stage, told =>
      stage.isMidway = false ∧ told = heard (events ++ farewell stopped quits)

theorem resumes (kind : JobKind) {w : Work (Option α)} {b : Books} {next : Option α → Work Stage}
    {property : Option α → List Event → Store Resource → Prop} (policy : Policy) (wait : α → Stage)
    (other : kind ≠ .management)
    (part : Yields w b fun answer told left => ∃ events, told = heard events ∧
      property answer events left.store)
    (waits : ∀ a, next (some a) = pure (wait a)) (rests : next none = pause kind enabled) :
    Yields (w >>= next) b fun stage told left => ∃ answer events,
      property answer events left.store ∧
        Resumes (kind.stopped policy) (quits kind enabled b) wait answer events stage told := by
  refine part.bind_steady ?_
  rintro (_ | a) _ b' ⟨events, rfl, holds⟩ steady
  · rw [rests]
    refine (pause_yields policy other enabled b').weaken ?_
    rintro stage _ left ⟨leaves, rfl, same⟩
    rw [quits_congr steady]
    exact ⟨none, events, same ▸ holds, leaves, (heard_append _ _).symm⟩
  · rw [waits]
    exact .pure ⟨some a, events, holds, rfl, List.append_nil _⟩

theorem survey_yields (enabled : Bool) (b : Books) :
    Yields (cycle .keeper enabled) b fun stage told left => ∃ answer events,
      Keeper.Surveyed b.store b.tuning answer events left.store ∧
        Resumes .keeperStopped (quits .keeper enabled b) .creating answer events stage told :=
  resumes .keeper (.custom "") .creating nofun (Keeper.survey_yields b) (fun _ => rfl) rfl

theorem collect_yields (keeper : j.kind = .keeper) (batch : Keeper.Batch) (call : Resource)
    (supply : Supply) (b : Books) :
    Yields (j.collect batch call supply) b fun stage told left => ∃ answer events,
      Keeper.Collected batch call supply b.store answer events left.store ∧
        Resumes .keeperStopped (quits .keeper j.enabled b) .creating answer events stage told := by
  unfold collect
  rw [keeper]
  exact resumes .keeper (.custom "") .creating nofun (Keeper.collect_yields batch call supply b)
    (fun _ => rfl) rfl

/-- What a health cycle comes to in its first turn. -/
def Inspected (store : Store Resource) (answer : Option Health.Round) (events : List Event)
    (store' : Store Resource) : Prop :=
  ∃ rest, events = .healthCycleStart :: .snapshot store.available.length :: rest ∧
    Health.Sought store.available.length store 0 store.available answer rest ∧ store' = store

theorem inspect_yields (enabled : Bool) (b : Books) :
    Yields (cycle .health enabled) b fun stage told left => ∃ answer events,
      Inspected b.store answer events left.store ∧
        Resumes .healthStopped (quits .health enabled b) .checking answer events stage told := by
  refine resumes .health (.custom "") .checking nofun ((Health.survey_yields b).weaken ?_)
    (fun _ => rfl) rfl
  rintro answer _ left ⟨rest, rfl, sought, same⟩
  exact ⟨_, rfl, rest, rfl, sought, same⟩

/-- What a turn comes to in which the check of a slot ended. -/
def Judged (round : Health.Round) (verdict : Verdict) (before : Store Resource)
    (answer : Option Health.Round) (events : List Event) (store : Store Resource) : Prop :=
  ∃ rest, events = Health.conclusion round.slot verdict ++ rest ∧
    Health.Sought round.checked store round.locked round.rest answer rest ∧
      store = Health.judged before round.slot verdict

theorem judge_yields (health : j.kind = .health) (round : Health.Round)
    {verdict : Verdict} (awake : ∀ text, verdict ≠ .panicked text) (b : Books) :
    Yields (j.judge round verdict) b fun stage told left => ∃ answer events,
      Judged round verdict b.store answer events left.store ∧
        Resumes .healthStopped (quits .health j.enabled b) .checking answer events stage told := by
  have part : Yields (Health.judge round verdict) b fun answer told left => ∃ events,
      told = heard events ∧ Judged round verdict b.store answer events left.store := by
    refine (Health.judge_yields round verdict b).weaken ?_
    rintro answer _ left ⟨rest, rfl, sought, same⟩
    exact ⟨_, rfl, rest, rfl, same ▸ sought, same⟩
  unfold judge
  rw [health]
  cases verdict with
  | sound | broken | failed =>
      exact resumes .health (.custom "") .checking nofun part (fun _ => rfl) rfl
  | panicked text => exact absurd rfl (awake text)

/-- A turn that begins a cycle does nothing else. -/
theorem Responds.begins {b : Books} {signal : Signal} {work : Work Stage}
    (responds : j.Responds b signal work) (other : j.kind ≠ .management)
    (begins : j.begins b signal = true) (actor : Option JobId) :
    j.enabled = true ∧
      work.after { b with actor } = (cycle j.kind true).after { b with actor } := by
  cases responds with
  | run standing =>
      have enabled : j.enabled = true := begins
      refine ⟨enabled, ?_⟩
      unfold Job.run loop
      rw [if_neg other, if_pos enabled, enabled]
  | @wake nap due standing passed =>
      simp only [Job.begins, standing, Bool.and_eq_true, Option.isNone_iff_eq_none] at begins
      obtain ⟨enabled, spent⟩ := begins
      refine ⟨enabled, ?_⟩
      unfold Job.wake
      rw [if_pos enabled, enabled, Work.after_bind]
      simp only [Work.after_books, spent]
  | launch | deliver | collect | judge | resolved | tick => contradiction

end Job

/-! ## Turns -/

/-- Whether the job of a turn leaves its loop in good order once its cycle is over. -/
def Turn.quits (turn : Turn) : Bool :=
  Job.quits turn.standing.kind turn.standing.enabled turn.before

theorem Turn.quits_of_begins {turn : Turn} (begins : turn.begins = true) : turn.quits = false := by
  rw [quits, Job.quits, turn.enabled_of_begins begins]
  rfl

/-- A turn of a job that was left at a stage, with what the job had reported by then. -/
structure Turn.Takes (turn : Turn) (job : JobId) (kind : JobKind) (stage : Stage)
    (reported : List Report) : Prop where
  own : turn.job = job
  kind : turn.standing.kind = kind
  stage : turn.standing.stage = stage
  reported : turn.before.reportsOf (some job) = reported
  running : turn.before.terminated = false
  sound : turn.before.store.Sound
  works : ∃ work, turn.standing.Responds turn.before turn.signal work ∧
    turn = .of turn.job turn.standing turn.signal work turn.before

/-- A turn of a job with what it reports; its cycle is cut short if one of its events is refused. -/
def Turn.Tells (turn : Turn) (job : JobId) (reported : List Report)
    (post : Stage → List Report → Store Resource → Prop) : Prop :=
  ∃ told, turn.after.reportsOf (some job) = told.reverse ++ reported ∧
    (Unheard told ∧ turn.stage.isMidway = false ∨ post turn.stage told turn.after.store)

/-- What a job has reported at the end of a turn on top of earlier reports has a property, unless
one of its events was refused. -/
def Turn.Closes (turn : Turn) (job : JobId) (reported : List Report)
    (property : List Report → Prop) : Prop :=
  ∃ told, turn.after.reportsOf (some job) = told.reverse ++ reported ∧
    (Unheard told ∨ property told)

theorem Turn.tells_of {id : JobId} {work : Work Stage} {b : Books} (j : Job) (signal : Signal)
    {post : Stage → List Report → Books → Prop} (running : b.terminated = false)
    (yields : Yields work { b with actor := some id } post) :
    (Turn.of id j signal work b).Tells id (b.reportsOf (some id)) fun stage told store =>
      ∃ left, post stage told left ∧ store = left.store := by
  obtain ⟨told, adds, ends⟩ := yields
  have counts : (Turn.of id j signal work b).Adds told.reverse := Turn.adds_of running adds
  obtain ⟨refused, reports⟩ := counts.reports
  have own := reports (some id)
  have same : some id = some (Turn.of id j signal work b).job := rfl
  rw [if_pos same] at own
  rcases ended : work.after { b with actor := some id } with ⟨failure | stage, left⟩ <;>
    rw [ended] at ends
  -- A turn that fails was refused an event, and its job is over.
  · have failed : (Turn.of id j signal work b).failure? = some failure := by
      simp only [Turn.failure?, Turn.of, ended]
    rw [failed, Option.elim_some] at own
    refine ⟨told ++ (Job.obituary b j.kind failure refused).reverse, ?_, Or.inl ⟨?_, ?_⟩⟩
    · rw [List.reverse_append, List.reverse_reverse]
      exact own
    · exact ends.subset (List.subset_append_left _ _)
    · simp only [Turn.stage, Turn.of, ended]
      rfl
  · have came : (Turn.of id j signal work b).outcome = .ok stage := by
      simp only [Turn.of, ended]
    have none : (Turn.of id j signal work b).failure? = none := by
      simp only [Turn.failure?, came]
    have stands : (Turn.of id j signal work b).stage = stage := by
      simp only [Turn.stage, came]
    have store : (Turn.of id j signal work b).after.store = left.store := by
      simp only [Work.after] at ended
      simp only [Turn.of, Job.turn, ended]
    rw [none, Option.elim_none, List.nil_append] at own
    exact ⟨told, own, Or.inr ⟨left, stands ▸ ends, store⟩⟩

theorem Unheard.after {told : List Report} (unheard : Unheard told) (early : List Report) :
    Unheard (told.reverse ++ early) :=
  unheard.subset fun _ member => List.mem_append_left _ (List.mem_reverse.mpr member)

namespace Turn
variable {turn last : Turn} {job : JobId} {reported : List Report}
variable {post property : Stage → List Report → Store Resource → Prop}
variable {whole : List Report → Prop}

theorem Tells.weaken (tells : turn.Tells job reported post)
    (weaker : ∀ stage told store, post stage told store → property stage told store) :
    turn.Tells job reported property := by
  obtain ⟨told, report, ends⟩ := tells
  exact ⟨told, report, ends.imp_right (weaker _ _ _)⟩

/-- The last turn of a cycle. -/
theorem Tells.closes (tells : turn.Tells job reported post)
    (comes : ∀ told, post turn.stage told turn.after.store → whole told) :
    turn.Closes job reported whole := by
  obtain ⟨told, report, ends⟩ := tells
  exact ⟨told, report, ends.imp And.left (comes told)⟩

/-- A turn in the middle of a cycle, with what comes of the later ones. -/
theorem Tells.leads (tells : turn.Tells job reported post) (midway : turn.stage.isMidway = true)
    (later : ∀ told, post turn.stage told turn.after.store → ∃ rest : List Report → Prop,
      last.Closes job (turn.after.reportsOf (some job)) rest ∧
        ∀ late, rest late → whole (told ++ late)) : last.Closes job reported whole := by
  obtain ⟨told, report, ⟨_, leaves⟩ | holds⟩ := tells
  · cases midway.symm.trans leaves
  · obtain ⟨rest, ⟨late, report', ends⟩, comes⟩ := later told holds
    refine ⟨told ++ late, by rw [report', report, List.reverse_append, List.append_assoc], ?_⟩
    exact ends.imp (·.subset (List.subset_append_right _ _)) (comes late)

end Turn

namespace Turn.Takes
variable {turn : Turn} {job : JobId} {kind : JobKind} {stage : Stage} {reported : List Report}
variable {post : Stage → List Report → Store Resource → Prop}

theorem tells (takes : turn.Takes job kind stage reported)
    (yields : ∀ work, turn.standing.Responds turn.before turn.signal work →
      Yields work { turn.before with actor := some turn.job } fun stage told left =>
        post stage told left.store) : turn.Tells job reported post := by
  obtain ⟨work, responds, same⟩ := takes.works
  have tells := Turn.tells_of turn.standing turn.signal takes.running (yields work responds)
  rw [← same, takes.own, takes.reported] at tells
  refine tells.weaken ?_
  rintro stage told _ ⟨left, holds, rfl⟩
  exact holds

/-- The turn in which a cycle begins. -/
theorem opens (takes : turn.Takes job kind stage reported) (other : kind ≠ .management)
    (begins : turn.begins = true)
    (yields : ∀ b : Books, b.store = turn.before.store → b.tuning = turn.before.tuning →
      Yields (Job.cycle kind true) b fun stage told left => post stage told left.store) :
    turn.Tells job reported post := by
  refine takes.tells fun work responds => ?_
  have kind := takes.kind
  obtain ⟨_, same⟩ := responds.begins (kind ▸ other) begins (some turn.job)
  rw [kind] at same
  exact .congr same (yields _ rfl rfl)

end Turn.Takes

/-- The turns of a job from a stage in the middle of a cycle up to the one that leaves it. -/
inductive Sequel (job : JobId) (kind : JobKind) : Stage → List Report → List Turn → Turn → Prop
  | last {stage : Stage} {reported : List Report} {turn : Turn} :
      turn.Takes job kind stage reported → turn.stage.isMidway = false →
      Sequel job kind stage reported [] turn
  | next {stage : Stage} {reported : List Report} {turn last : Turn} {middle : List Turn} :
      turn.Takes job kind stage reported → turn.stage.isMidway = true →
      Sequel job kind turn.stage (turn.after.reportsOf (some job)) middle last →
      Sequel job kind stage reported (turn :: middle) last

theorem Sequel.kind {job : JobId} {kind : JobKind} {stage : Stage} {reported : List Report}
    {middle : List Turn} {last : Turn} (sequel : Sequel job kind stage reported middle last) :
    last.standing.kind = kind := by
  induction sequel with
  | last takes _ => exact takes.kind
  | next _ _ _ ih => exact ih

theorem Sequel.sound {job : JobId} {kind : JobKind} {stage : Stage} {reported : List Report}
    {front : List Turn} {last : Turn} (sequel : Sequel job kind stage reported front last) :
    ∀ turn ∈ front ++ [last], turn.before.store.Sound := by
  induction sequel with
  | last takes _ => simpa using takes.sound
  | next takes _ _ ih => exact List.forall_mem_cons.mpr ⟨takes.sound, ih⟩

/-- Whether the store stays as it is between some turns. -/
def Seamless (turns : List Turn) : Prop :=
  turns.IsChain fun turn next => next.before.store = turn.after.store

namespace System
variable {s next : System} {a : Action} {turn : Turn} {job : JobId} {j : Job}

/-- The turns of a job in the course of a run. -/
def turnsOf (s : System) (job : JobId) (actions : List Action) : List Turn :=
  (s.turns actions).filter (·.job = job)

/-- A cycle of a job, with all its turns but the last, and the last. It is over in the turn in
which it begins, or in a later one after which the job no longer waits in its middle. -/
inductive WholeCycle (s : System) (job : JobId) : List Action → List Turn → Turn → Prop
  | brief {a : Action} {turn : Turn} : s.turn? a = some turn → turn.job = job →
      turn.begins = true → turn.stage.isMidway = false → s.WholeCycle job [a] [] turn
  | long {a z : Action} {opening last : Turn} {middle : List Action} :
      s.turn? a = some opening → opening.job = job → opening.begins = true →
      opening.stage.isMidway = true →
      (∀ turn ∈ (s.step a).turnsOf job middle, turn.stage.isMidway = true) →
      ((s.step a).run middle).turn? z = some last → last.job = job →
      last.stage.isMidway = false →
      s.WholeCycle job (a :: middle ++ [z]) (opening :: (s.step a).turnsOf job middle) last

theorem turn?_gives (given : s.turn? a = some turn) :
    ∃ next, s.Gives a turn next ∧ s.step a = next.settle := by
  obtain ⟨turn', next, given', gives, stepped⟩ | ⟨none, _⟩ := s.step_turns a
  · cases given.symm.trans given'
    exact ⟨next, gives, stepped⟩
  · cases given.symm.trans none

/-- The turn that an action gives to a job takes the job where it was left. -/
theorem Gives.takes (gives : s.Gives a turn next) (orderly : s.Orderly) :
    turn.Takes turn.job turn.standing.kind turn.standing.stage
      (s.books.reportsOf (some turn.job)) := by
  cases gives with
  | turn running _ answered =>
      exact ⟨rfl, rfl, rfl, rfl, running, orderly.custody.sound, _, Job.responds answered, rfl⟩

theorem takes (given : s.turn? a = some turn) (orderly : s.Orderly)
    (found : s.jobs.get? job = some j) (own : turn.job = job) :
    turn.Takes job j.kind j.stage (s.books.reportsOf (some job)) := by
  obtain ⟨next, gives, _⟩ := turn?_gives given
  have takes := gives.takes orderly
  subst own
  cases found.symm.trans gives.found
  exact takes

/-- Between two turns of a job its stage and what it has reported stay as they are. -/
theorem Attributed.waits (attributed : s.Attributed) (found : s.jobs.get? job = some j)
    (other : ∀ turn, s.turn? a = some turn → turn.job ≠ job) :
    (s.step a).books.reportsOf (some job) = s.books.reportsOf (some job) ∧
      ∃ j', (s.step a).jobs.get? job = some j' ∧ j'.kind = j.kind ∧ j'.stage = j.stage := by
  obtain ⟨turn, next, given, gives, stepped⟩ | ⟨_, turnless⟩ := s.step_turns a
  · have different := other turn given
    have suits := attributed.suits _ _ gives.found
    rw [stepped]
    obtain ⟨_, jobs, _⟩ := next.settle_aside
    constructor
    · rw [(attributed.gives gives).reportsOf_turnless (.settle next)]
      exact gives.reportsOf_other suits different
    · refine ⟨j, ?_, rfl, rfl⟩
      rw [jobs, gives.next_eq]
      exact (Table.get?_set_of_ne _ _ different).trans found
  · obtain ⟨asked, kept⟩ := attributed.get?_turnless turnless found
    exact ⟨attributed.reportsOf_turnless turnless job, _, kept, rfl, rfl⟩

/-- After a turn its job is where the turn left it. -/
theorem Attributed.left (attributed : s.Attributed) (given : s.turn? a = some turn) :
    (s.step a).books.reportsOf (some turn.job) = turn.after.reportsOf (some turn.job) ∧
      ∃ j', (s.step a).jobs.get? turn.job = some j' ∧ j'.kind = turn.standing.kind ∧
        j'.stage = turn.stage := by
  obtain ⟨next, gives, stepped⟩ := turn?_gives given
  obtain ⟨_, jobs, _⟩ := next.settle_aside
  rw [stepped, (attributed.gives gives).reportsOf_turnless (.settle next), gives.books, jobs,
    gives.next_eq]
  exact ⟨rfl, _, Table.get?_set_self .., rfl, rfl⟩

theorem sequel_of (orderly : s.Orderly) (attributed : s.Attributed)
    (found : s.jobs.get? job = some j) {middle : List Action} {z : Action} {last : Turn}
    (midway : ∀ turn ∈ s.turnsOf job middle, turn.stage.isMidway = true)
    (closes : (s.run middle).turn? z = some last) (own : last.job = job)
    (leaves : last.stage.isMidway = false) :
    Sequel job j.kind j.stage (s.books.reportsOf (some job)) (s.turnsOf job middle) last := by
  induction middle generalizing s j with
  | nil => exact .last (takes closes orderly found own) leaves
  | cons a rest ih =>
      have turned : s.turnsOf job (a :: rest) =
          (s.turn? a).toList.filter (·.job = job) ++ (s.step a).turnsOf job rest := by
        rw [turnsOf, turns, List.filter_append]
        rfl
      rw [turned] at midway ⊢
      by_cases ours : ∃ turn, s.turn? a = some turn ∧ turn.job = job
      · obtain ⟨turn, given, rfl⟩ := ours
        obtain ⟨reported, j', found', kind, stage⟩ := attributed.left given
        have took := takes given orderly found rfl
        have first : (s.turn? a).toList.filter (·.job = turn.job) = [turn] := by
          simp [given]
        rw [first] at midway ⊢
        have later := ih (orderly.step a) (attributed.step a) found'
          (fun turn member => midway turn (List.mem_append_right _ member)) closes
        rw [reported, kind, stage, took.kind] at later
        exact .next took (midway turn (by simp)) later
      · have other : ∀ turn, s.turn? a = some turn → turn.job ≠ job :=
          fun turn given own => ours ⟨turn, given, own⟩
        have none : (s.turn? a).toList.filter (·.job = job) = [] := by
          rw [List.filter_eq_nil_iff]
          intro turn member
          simpa using other turn (Option.mem_toList.mp member)
        obtain ⟨reported, j', found', kind, stage⟩ := attributed.waits found other
        rw [none, List.nil_append] at midway ⊢
        have later := ih (orderly.step a) (attributed.step a) found' midway closes
        rwa [reported, kind, stage] at later

/-- The turns of a cycle, the first of which finds the books as they are, and what the job has
reported before and after it. -/
theorem WholeCycle.sequel {moves : List Action} {front : List Turn} {last : Turn}
    (whole : s.WholeCycle job moves front last) (orderly : s.Orderly) (attributed : s.Attributed) :
    (∃ stage, Sequel job last.standing.kind stage (s.books.reportsOf (some job)) front last) ∧
      (s.run moves).books.reportsOf (some job) = last.after.reportsOf (some job) ∧
      (s.run moves.dropLast).books = last.before ∧
      ∃ opening rest, front ++ [last] = opening :: rest ∧ opening.begins = true ∧
        opening.before = s.books := by
  have opened {a : Action} {turn : Turn} (given : s.turn? a = some turn) :
      turn.before = s.books := by
    obtain ⟨_, gives, _⟩ := turn?_gives given
    exact gives.before
  cases whole with
  | @brief a turn given own begins leaves =>
      obtain ⟨next, gives, stepped⟩ := turn?_gives given
      subst own
      refine ⟨⟨_, .last (gives.takes orderly) leaves⟩, (attributed.left given).1,
        (opened given).symm, _, [], rfl, begins, opened given⟩
  | @long a z opening last middle given own begins midway waits closes mine leaves =>
      obtain ⟨next, gives, stepped⟩ := turn?_gives given
      subst own
      obtain ⟨reported, j, found, kind, stage⟩ := attributed.left given
      have later := sequel_of (orderly.step a) (attributed.step a) found waits closes mine leaves
      have orderly' := (orderly.step a).run middle
      have attributed' := (attributed.step a).run middle
      have whole : Sequel opening.job opening.standing.kind _ _ _ last :=
        .next (gives.takes orderly) midway (by rwa [reported, kind, stage] at later)
      have same : last.standing.kind = opening.standing.kind := whole.kind
      refine ⟨⟨_, same ▸ whole⟩, ?_, ?_, opening, _, rfl, begins, opened given⟩
      · rw [run_concat]
        exact mine ▸ (attributed'.left closes).1
      · obtain ⟨_, gives', _⟩ := turn?_gives closes
        rw [List.dropLast_concat]
        exact gives'.before.symm

end System
end ResourcePool
