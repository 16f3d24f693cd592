import ResourcePool.Proofs.Upkeep.Tick

/-! What a turn of a job reports, and what becomes of a turn that fails. -/
namespace ResourcePool

/-- A turn of a job: how the job stood, the signal that it answered, what its work came to, and
the books before and after. -/
structure Turn where
  job : JobId
  standing : Job
  signal : Signal
  outcome : Except Failure Stage
  before : Books
  after : Books

namespace Turn

/-- The turn in which a job does some work. -/
def of (id : JobId) (j : Job) (signal : Signal) (work : Work Stage) (b : Books) : Turn where
  job := id
  standing := j
  signal := signal
  outcome := (work.after { b with actor := some id }).1
  before := b
  after := (j.turn id work b).2

/-- Where a turn leaves its job. -/
def stage (turn : Turn) : Stage :=
  match turn.outcome with
  | .ok stage => stage
  | .error _ => .ended none

/-- The failure of which a turn's job was reported. -/
def failure? (turn : Turn) : Option Failure :=
  match turn.outcome with
  | .ok _ => none
  | .error failure => some failure

theorem outcome_cases (turn : Turn) :
    (∃ stage, turn.outcome = .ok stage ∧ turn.stage = stage ∧ turn.failure? = none) ∨
      ∃ failure, turn.outcome = .error failure ∧ turn.stage = .ended none ∧
        turn.failure? = some failure := by
  unfold stage failure?
  cases turn.outcome with
  | ok stage => exact Or.inl ⟨stage, rfl, rfl, rfl⟩
  | error failure => exact Or.inr ⟨failure, rfl, rfl, rfl⟩

end Turn

namespace Job

/-- What is reported of a failed job, the newest first. -/
def obituary (b : Books) (kind : JobKind) (failure : Failure) (refused : Bool) : List Report :=
  (if isFatal b.settings kind then [.terminating kind failure.message] else []) ++
    [.event (failureEvent b failure.message kind) refused]

variable {j : Job} {id : JobId} {b left : Books} {failure : Failure} {stage : Stage}

theorem supervise_reports (kind : JobKind) (failure : Failure) (b : Books) :
    ∃ refused, ∀ who, (supervise kind failure b).reportsOf who =
      (if who = b.actor then obituary b kind failure refused else []) ++ b.reportsOf who := by
  have told := Books.Adds.tell b (failureEvent b failure.message kind)
  refine ⟨(b.sink b.journal (failureEvent b failure.message kind)).isSome, fun who => ?_⟩
  unfold supervise obituary
  simp only [told.settings]
  split
  · exact (told.trans (.note _ _)).reports who
  · exact told.reports who

theorem policyOf_congr (same : left.settings = b.settings) : policyOf left = policyOf b := by
  rw [policyOf, same, policyOf]

theorem failureEvent_congr (same : left.settings = b.settings) (error : String) (kind : JobKind) :
    failureEvent left error kind = failureEvent b error kind := by
  unfold failureEvent
  rw [policyOf_congr same]

theorem obituary_congr (same : left.settings = b.settings) (kind : JobKind) (failure : Failure)
    (refused : Bool) : obituary left kind failure refused = obituary b kind failure refused := by
  unfold obituary
  rw [same, failureEvent_congr same]

/-- Nothing but reports comes of a failed job, unless the process is taken down. -/
theorem supervise_aside (kind : JobKind) (failure : Failure) (b : Books) :
    (supervise kind failure b).settings = b.settings ∧
      (supervise kind failure b).baseline = b.baseline ∧
      (supervise kind failure b).terminated = (isFatal b.settings kind || b.terminated) := by
  have told := Books.Adds.tell b (failureEvent b failure.message kind)
  unfold supervise
  simp only [told.settings]
  cases isFatal b.settings kind with
  | true => exact ⟨told.settings, rfl, rfl⟩
  | false => exact ⟨told.settings, rfl, told.terminated⟩

end Job

namespace Turn

/-- What a turn adds to the reports of its job, besides what becomes of a failure. -/
structure Adds (turn : Turn) (told : List Report) : Prop where
  reports : ∃ refused, ∀ who, turn.after.reportsOf who =
    (if who = some turn.job then
      turn.failure?.elim [] (Job.obituary turn.before turn.standing.kind · refused) ++ told
    else []) ++ turn.before.reportsOf who
  actor : turn.after.actor = none
  settings : turn.after.settings = turn.before.settings
  terminated : turn.after.terminated =
    turn.failure?.elim false fun _ => Job.isFatal turn.before.settings turn.standing.kind
  baseline : turn.after.baseline = turn.before.baseline ∨ ∃ report ∈ told, report.rebases = true

variable {j : Job} {id : JobId} {signal : Signal} {work : Work Stage} {b : Books}

theorem stage_of : (j.turn id work b).1 = { j with stage := (of id j signal work b).stage } := by
  unfold Job.turn of stage
  rcases ended : work.after { b with actor := some id } with ⟨failure | stage, left⟩ <;>
    simp only [Work.after] at ended <;> simp only [ended]

theorem adds_of {told : List Report} (running : b.terminated = false)
    (adds : Books.Adds told { b with actor := some id }
      (work.after { b with actor := some id }).2) :
    (of id j signal work b).Adds told := by
  rcases ended : work.after { b with actor := some id } with ⟨failure | stage, left⟩ <;>
    rw [ended] at adds
  · have reported (who : Option JobId) : left.reportsOf who =
      (if who = some id then told else []) ++ b.reportsOf who := adds.reports who
    have own : left.actor = some id := adds.actor
    have same : left.settings = b.settings := adds.settings
    have alive : left.terminated = false := adds.terminated.trans running
    obtain ⟨refused, supervised⟩ := Job.supervise_reports j.kind failure left
    obtain ⟨settings, baseline, terminated⟩ := Job.supervise_aside j.kind failure left
    have turned : of id j signal work b = ⟨id, j, signal, .error failure, b,
        { Job.supervise j.kind failure left with actor := none }⟩ := by
      rw [of, ended, Job.turn_error ended]
    rw [turned]
    constructor
    · refine ⟨refused, fun who => (supervised who).trans ?_⟩
      rw [reported, own, Job.obituary_congr same]
      by_cases mine : who = some id <;> simp [mine, failure?]
    · rfl
    · exact settings.trans same
    · rw [alive, Bool.or_false, same] at terminated
      exact terminated
    · exact adds.baseline.imp_left baseline.trans
  · have turned : of id j signal work b =
        ⟨id, j, signal, .ok stage, b, { left with actor := none }⟩ := by
      rw [of, ended]
      unfold Job.turn
      simp only [Work.after] at ended
      simp only [ended]
    rw [turned]
    exact ⟨⟨false, adds.reports⟩, rfl, adds.settings, adds.terminated.trans running, adds.baseline⟩

end Turn

end ResourcePool
