import ResourcePool.Proofs.Jobs.Turns

/-! How jobs end that nobody asked to stop. Such a job failed and was reported once, by its last
event, or a panic of the check or the tick that it waited for, or of its pause, ended it without a
word. -/
namespace ResourcePool

/-- Events that tell of a failed job. -/
def Event.isFailure : Event → Bool
  | .keeperFailed _ | .healthFailed _ | .policyFailed .. => true
  | _ => false

def Report.isFailure : Report → Bool
  | .event e _ => e.isFailure
  | _ => false

theorem Report.isFailure_of_isRoutine {report : Report} (routine : report.isRoutine = true) :
    report.isFailure = false := by
  cases report with
  | event e =>
      cases e with
      | keeperFailed | healthFailed | policyFailed => contradiction
      | _ => rfl
  | _ => rfl

/-- The failures of which a job was reported in some turns. -/
def failuresOf (turns : List Turn) (job : JobId) : List Failure :=
  (turns.filter (·.job = job)).filterMap Turn.failure?

theorem failuresOf_append (early late : List Turn) (job : JobId) :
    failuresOf (early ++ late) job = failuresOf early job ++ failuresOf late job := by
  simp only [failuresOf, List.filter_append, List.filterMap_append]

theorem failuresOf_own (turn : Turn) : failuresOf [turn] turn.job = turn.failure?.toList := by
  cases failed : turn.failure? <;> simp [failuresOf, failed]

theorem failuresOf_other {turn : Turn} {job : JobId} (different : turn.job ≠ job) :
    failuresOf [turn] job = [] := by
  simp [failuresOf, different]

namespace System
variable {s t next : System} {a : Action} {turn : Turn} {done : List Turn} {job : JobId} {j : Job}

/-! ## Before a job ends -/

/-- As long as a job is not over, it did not fail. -/
structure Unfailing (done : List Turn) (t : System) : Prop where
  unborn : ∀ job, t.fresh ≤ job → failuresOf done job = []
  living : ∀ job j, t.jobs.get? job = some j → j.isOver = false → failuresOf done job = [] ∧
    (j.kind ≠ .management → ∀ report ∈ t.books.reportsOf (some job), report.isFailure = false)

namespace Unfailing

theorem turnless (unfailing : t.Unfailing done) (attributed : t.Attributed)
    (turnless : t.Turnless next) : next.Unfailing done where
  unborn := fun job high => unfailing.unborn job (Nat.le_trans turnless.fresh high)
  living := by
    intro job j found alive
    rw [attributed.reportsOf_turnless turnless]
    obtain ⟨earlier, asked, before, rfl⟩ | ⟨high, _⟩ := turnless.origin found
    · exact unfailing.living job earlier before alive
    · refine ⟨unfailing.unborn job high, fun _ => ?_⟩
      rw [attributed.unborn job high]
      simp

theorem gives (unfailing : t.Unfailing done) (attributed : t.Attributed)
    (gives : t.Gives a turn next) : next.Unfailing (done ++ [turn]) := by
  have suits := attributed.suits _ _ gives.found
  have fresh : next.fresh = t.fresh := by rw [gives.next_eq]
  constructor
  · intro job high
    rw [fresh] at high
    have different : turn.job ≠ job :=
      Nat.ne_of_lt (Nat.lt_of_lt_of_le (attributed.numbered _ _ gives.found) high)
    rw [failuresOf_append, unfailing.unborn job high, failuresOf_other different, List.append_nil]
  · intro job j found alive
    rw [failuresOf_append]
    obtain ⟨rfl, rfl⟩ | ⟨different, before⟩ := gives.stored found
    · obtain ⟨none, quiet⟩ := unfailing.living _ _ gives.found gives.unfinished
      obtain ⟨_, _, _, unfailed⟩ | ⟨_, _, ended, _⟩ := turn.outcome_cases
      · rw [failuresOf_own, unfailed, none]
        refine ⟨rfl, fun other => ?_⟩
        obtain ⟨told, adds, routine, _⟩ := gives.routine other suits
        obtain ⟨refused, reports⟩ := adds.reports
        rw [gives.books, reports, if_pos rfl, unfailed, gives.before]
        refine List.forall_mem_append.mpr ⟨fun report member => ?_, quiet other⟩
        exact Report.isFailure_of_isRoutine (routine report member)
      · rw [Job.isOver, ended] at alive
        contradiction
    · rw [failuresOf_other different, List.append_nil, gives.reportsOf_other suits different]
      exact unfailing.living job j before alive

end Unfailing

theorem unfailing_run (id : Nat) (settings : Settings) (sink : Sink) (actions : List Action) :
    let s := ofSettings id settings sink
    (s.run actions).Attributed ∧ (s.run actions).Unfailing (s.turns actions) :=
  (attributed_ofSettings id settings sink).turns_keep
    ⟨fun _ _ => rfl, by simp [ofSettings]⟩
    (fun _ _ _ attributed turnless unfailing => unfailing.turnless attributed turnless)
    (fun _ _ _ _ _ attributed gives unfailing => unfailing.gives attributed gives) actions

/-! ## After a job ended -/

/-- A job that is over rests: it stays as it ended, and nothing is reported in its name. -/
structure Rests (t : System) (job : JobId) (stage : Stage) (told : List Report) : Prop where
  finished : ∃ j, t.jobs.get? job = some j ∧ j.stage = stage ∧ j.isOver = true
  reports : t.books.reportsOf (some job) = told

namespace Rests
variable {stage : Stage} {told : List Report}

theorem turnless (rests : t.Rests job stage told) (attributed : t.Attributed)
    (turnless : t.Turnless next) : next.Rests job stage told := by
  obtain ⟨⟨j, found, stands, finished⟩, reports⟩ := rests
  obtain ⟨asked, kept⟩ := attributed.get?_turnless turnless found
  exact ⟨⟨j.askIf asked, kept, stands, finished⟩,
    (attributed.reportsOf_turnless turnless job).trans reports⟩

theorem gives (rests : t.Rests job stage told) (attributed : t.Attributed)
    (gives : t.Gives a turn next) : turn.job ≠ job ∧ next.Rests job stage told := by
  obtain ⟨⟨j, found, stands, finished⟩, reported⟩ := rests
  have different : turn.job ≠ job := by
    rintro rfl
    cases found.symm.trans gives.found
    cases finished.symm.trans gives.unfinished
  refine ⟨different, ⟨j, ?_, stands, finished⟩, ?_⟩
  · rw [gives.next_eq]
    exact (Table.get?_set_of_ne _ _ different).trans found
  · exact (gives.reportsOf_other (attributed.suits _ _ gives.found) different).trans reported

/-- No failure of a job that rests is reported. -/
theorem run (rests : t.Rests job stage told) (attributed : t.Attributed) (actions : List Action) :
    (t.run actions).Rests job stage told ∧ failuresOf (t.turns actions) job = [] := by
  refine (attributed.turns_keep (P := fun done u => u.Rests job stage told ∧
    failuresOf done job = []) ⟨rests, rfl⟩ ?_ ?_ actions).2
  · rintro done u next attributed turnless ⟨rests, none⟩
    exact ⟨rests.turnless attributed turnless, none⟩
  · rintro done u a turn next attributed gives ⟨rests, none⟩
    obtain ⟨different, rests⟩ := rests.gives attributed gives
    refine ⟨rests, ?_⟩
    rw [failuresOf_append, none, failuresOf_other different, List.append_nil]

end Rests

/-! ## The end of a job -/

/-- The turn in which a job ends that nobody asked to stop. -/
theorem Gives.dies (gives : s.Gives a turn next)
    (suits : turn.standing.stage.Suits turn.standing.kind)
    (enabled : turn.standing.enabled = true) (finished : ∃ panic, turn.stage = .ended panic) :
    ∃ told, turn.Adds told ∧
      (turn.standing.kind ≠ .management → ∀ report ∈ told, report.isFailure = false) ∧
      ((∃ failure, turn.failure? = some failure ∧ turn.stage = .ended none) ∨
        ∃ text, turn.failure? = none ∧ turn.stage = .ended (some text) ∧ turn.Panics text) := by
  obtain ⟨told, adds, routine, follows⟩ := gives.tells suits
  refine ⟨told, adds, fun other report member =>
    Report.isFailure_of_isRoutine (routine other report member), ?_⟩
  obtain ⟨stage, came, stands, unfailed⟩ | ⟨failure, _, ended, failed⟩ := turn.outcome_cases
  · have follows := follows stage came
    rw [stands] at finished ⊢
    obtain ⟨_ | text, rfl⟩ := finished
    · cases enabled.symm.trans follows
    · exact Or.inr ⟨text, unfailed, rfl, follows⟩
  · exact Or.inl ⟨failure, failed, ended⟩

/-- A job is over after a step only if it was before, or had a turn. -/
theorem step_ends {j' : Job} (a : Action) (attributed : s.Attributed)
    (found : s.jobs.get? job = some j) (alive : j.isOver = false)
    (found' : (s.step a).jobs.get? job = some j') (finished : j'.isOver = true) :
    ∃ turn next, s.turn? a = some turn ∧ s.Gives a turn next ∧ s.step a = next.settle ∧
      turn.job = job ∧ turn.standing = j ∧ j' = { j with stage := turn.stage } := by
  obtain ⟨turn, next, given, gives, stepped⟩ | ⟨_, turnless⟩ := s.step_turns a
  · have stored : next.jobs.get? job = some j' := by rwa [← next.settle_aside.2.1, ← stepped]
    obtain ⟨rfl, rfl⟩ | ⟨_, before⟩ := gives.stored stored
    · cases found.symm.trans gives.found
      exact ⟨turn, next, given, gives, stepped, rfl, rfl, rfl⟩
    · cases found.symm.trans before
      cases alive.symm.trans finished
  · obtain ⟨asked, kept⟩ := attributed.get?_turnless turnless found
    cases kept.symm.trans found'
    cases alive.symm.trans finished

/-- When a job ends that nobody asked to stop, either it failed: then its failure is reported once
and by its last event, and takes the process down exactly if a failure of its kind is fatal. Or
the check or the tick that it waited for panicked, or the clock could not tell when its pause would
be over: then its end is not reported, and the process goes on. A sink and a resolver answer or
refuse here, but they do not panic. -/
theorem endings_accounted (id : Nat) (settings : Settings) (sink : Sink)
    (before after : List Action) (a : Action) (job : JobId) (j j' : Job) :
    let initial := ofSettings id settings sink
    let s := initial.run before
    let t := s.step a
    let u := t.run after
    let failures := failuresOf (initial.turns (before ++ a :: after)) job
    s.jobs.get? job = some j → j.enabled = true → j.isOver = false →
      t.jobs.get? job = some j' → j'.isOver = true →
      ∃ told, (j.kind ≠ .management → ∀ report ∈ told, report.isFailure = false) ∧
        ((∃ failure refused, failures = [failure] ∧ j'.stage = .ended none ∧
            u.books.reportsOf (some job) =
              (if Job.isFatal settings j.kind then [.terminating j.kind failure.message] else []) ++
                .event (Job.failureEvent s.books failure.message j.kind) refused :: told ∧
            t.books.terminated = Job.isFatal settings j.kind) ∨
          ∃ signal text, a = .signal job signal ∧ Job.Panics j.kind signal s.books text ∧
            failures = [] ∧
            j'.stage = .ended (some text) ∧ u.books.reportsOf (some job) = told ∧
            t.books.terminated = false) := by
  intro initial s t u failures found enabled alive found' finished
  obtain ⟨attributed, unfailing⟩ := unfailing_run id settings sink before
  obtain ⟨none, quiet⟩ := unfailing.living job j found alive
  obtain ⟨turn, next, given, gives, stepped, rfl, rfl, rfl⟩ :=
    step_ends a attributed found alive found' finished
  obtain ⟨panic, ended⟩ : ∃ panic, turn.stage = .ended panic := by
    unfold Job.isOver at finished
    split at finished
    · exact ⟨_, ‹_›⟩
    · contradiction
  obtain ⟨told, adds, routine, dies⟩ :=
    gives.dies (attributed.suits _ _ found) enabled ⟨panic, ended⟩
  obtain ⟨refused, reports⟩ := adds.reports
  have settled : Books.Outside turn.after t.books := by
    have settles := gives.settles
    rwa [← stepped] at settles
  have terminated := settled.terminated.trans adds.terminated
  have mine : t.books.reportsOf (some turn.job) =
      turn.failure?.elim [] (Job.obituary turn.before turn.standing.kind · refused) ++
        (told ++ s.books.reportsOf (some turn.job)) := by
    have apart : some turn.job ≠ turn.after.actor := by simp [adds.actor]
    rw [settled.other apart, reports, if_pos rfl, List.append_assoc, gives.before]
  rw [gives.before] at mine terminated
  have rests : t.Rests turn.job turn.stage (t.books.reportsOf (some turn.job)) :=
    ⟨⟨_, found', rfl, finished⟩, rfl⟩
  obtain ⟨⟨_, later⟩, silent⟩ := rests.run (attributed.step a) after
  have all : failures = turn.failure?.toList := by
    have turns : initial.turns (before ++ a :: after) =
      initial.turns before ++ ((s.turn? a).toList ++ t.turns after) := initial.turns_append _ _
    have given : s.turn? a = some turn := given
    show failuresOf (initial.turns _) turn.job = _
    rw [turns, failuresOf_append, failuresOf_append, none, given, silent, List.append_nil]
    exact failuresOf_own turn
  have fatal (kind : JobKind) : Job.isFatal s.books.settings kind = Job.isFatal settings kind :=
    congrArg (Job.isFatal · kind) ((attributed_ofSettings id settings sink).settings_run before)
  refine ⟨told ++ s.books.reportsOf (some turn.job), fun other =>
    List.forall_mem_append.mpr ⟨routine other, quiet other⟩, ?_⟩
  obtain ⟨failure, failed, ended⟩ | ⟨text, failed, ended, panicked⟩ := dies <;>
    rw [failed] at mine terminated all
  · refine Or.inl ⟨failure, refused, all, ended, ?_, terminated.trans (fatal _)⟩
    rw [later, mine, Option.elim_some, Job.obituary, fatal, List.append_assoc]
    rfl
  · exact Or.inr ⟨turn.signal, text, gives.action, gives.before ▸ panicked, all, ended,
      later.trans mine, terminated⟩

/-- A failure of the health job is fatal, but the panic of its check goes unreported. -/
theorem endings_accounted_panicked :
    let initial := ofSettings 1 { hasCheck := true, healthFatal := true } .accepting
    let s := initial.run [.get, .supply 0 .made, .dropLease 1, .start .health, .signal 3 .run]
    let t := s.step (.signal 3 (.judge (.panicked "bad check")))
    let u := t.run [.stopAll, .resume 4]
    s.jobs.get? 3 = some ⟨.health, true, .checking ⟨1, 1, ⟨0⟩, 0, []⟩⟩ ∧
      t.jobs.get? 3 = some ⟨.health, true, .ended (some "bad check")⟩ ∧
      t.books.terminated = false ∧
      ∀ report ∈ u.books.reportsOf (some 3), report.isFailure = false := by
  intro initial s t u
  have found : s.jobs.get? 3 = some ⟨.health, true, .checking ⟨1, 1, ⟨0⟩, 0, []⟩⟩ := by
    decide +kernel
  have found' : t.jobs.get? 3 = some ⟨.health, true, .ended (some "bad check")⟩ := by
    decide +kernel
  obtain ⟨told, quiet, ⟨_, _, _, ended, _⟩ | ⟨_, _, _, _, _, _, same, _⟩⟩ :=
    endings_accounted 1 { hasCheck := true, healthFatal := true } .accepting
      [.get, .supply 0 .made, .dropLease 1, .start .health, .signal 3 .run]
      [.stopAll, .resume 4] (.signal 3 (.judge (.panicked "bad check"))) 3
      ⟨.health, true, .checking ⟨1, 1, ⟨0⟩, 0, []⟩⟩ ⟨.health, true, .ended (some "bad check")⟩
      found rfl rfl found' rfl
  · cases ended
  · rw [← same] at quiet
    exact ⟨found, found', by decide +kernel, quiet nofun⟩

end System
end ResourcePool
