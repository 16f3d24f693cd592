import ResourcePool.Proofs.Jobs.Turns

/-! The life of a policy. A management job starts its policy before its first tick; leaving the
loop stops the policy, unless a refused event of a cycle cut the loop short. -/
namespace ResourcePool

theorem Job.obituary_isLifecycle (b : Books) (kind : JobKind) (refused : Bool)
    (failure : Option Failure) :
    ∀ report ∈ failure.elim [] (Job.obituary b kind · refused), report.isLifecycle = false := by
  cases failure with
  | none => simp
  | some failure =>
      refine List.forall_mem_append.mpr ⟨?_, List.forall_mem_singleton.mpr rfl⟩
      split
      · exact List.forall_mem_singleton.mpr rfl
      · simp

/-- A turn after which the loop goes on says nothing of leaving it. -/
theorem Exits.eq_nil {enabled : Bool} {panics : String → Prop} {stage : Stage} {exit : List Report}
    (exits : Exits enabled panics (.ok stage) exit) (going : stage ≠ .ended none) : exit = [] := by
  cases exits with
  | ticks | sleeps | unwound => rfl
  | stopped => exact False.elim (going rfl)

/-- Only asking a job to stop changes what its exit may be. -/
theorem Exits.askIf {enabled : Bool} {panics : String → Prop} {outcome : Except Failure Stage}
    {exit : List Report} (exits : Exits enabled panics outcome exit) (asked : Bool) :
    Exits (enabled && !asked) panics outcome exit := by
  cases exits with
  | stopped off => exact .stopped (by rw [off, Bool.false_and])
  | ticks => exact .ticks
  | sleeps => exact .sleeps
  | unwound same => exact .unwound same
  | unheard => exact .unheard
  | failed => exact .failed
  | cut cycle => exact .cut cycle

namespace System
variable {s t next : System} {a : Action} {turn last : Turn} {done : List Turn} {job : JobId}
variable {j : Job} {told : List Report}

/-- The latest turn of a job. -/
def lastTurn? (turns : List Turn) (job : JobId) : Option Turn :=
  (turns.filter (·.job = job)).getLast?

theorem lastTurn?_own (done : List Turn) (turn : Turn) :
    lastTurn? (done ++ [turn]) turn.job = some turn := by
  simp [lastTurn?]

theorem lastTurn?_other (done : List Turn) (different : turn.job ≠ job) :
    lastTurn? (done ++ [turn]) job = lastTurn? done job := by
  simp [lastTurn?, different]

/-- What a management job reported up to its latest turn, the newest first: before all else the
start of the policy, then what belongs to its ticks, then how that turn left the loop, and at last
a failure if there was one. -/
structure Lifetime (j : Job) (last : Turn) (told : List Report) : Prop where
  stands : j.stage = last.stage
  parts : ∃ refused exit ticks,
    told = last.failure?.elim [] (Job.obituary last.before .management · refused) ++
      (exit ++ (ticks ++ [.policyStarted])) ∧
    Exits j.enabled last.Panics last.outcome exit ∧
    ∀ report ∈ ticks, report.isLifecycle = false

namespace Lifetime

theorem askIf (lifetime : Lifetime j last told) (asked : Bool) :
    Lifetime (j.askIf asked) last told := by
  obtain ⟨stands, refused, exit, ticks, parts, exits, within⟩ := lifetime
  have same : (j.askIf asked).enabled = (j.enabled && !asked) := by simp [Job.askIf]
  exact ⟨stands, refused, exit, ticks, parts, same ▸ exits.askIf asked, within⟩

theorem begun (lifetime : Lifetime j last told) : j.stage ≠ .spawned := by
  obtain ⟨stands, _, _, _, _, exits, _⟩ := lifetime
  obtain ⟨stage, came, same, _⟩ | ⟨_, _, ended, _⟩ := last.outcome_cases
  · rw [stands, same]
    rw [came] at exits
    rintro rfl
    exact exits.follows rfl
  · rw [stands, ended]
    nofun

/-- As long as a job is not over, all that it reported belongs to ticks. -/
theorem ticking (lifetime : Lifetime j last told) (alive : j.isOver = false) :
    ∃ ticks, told = ticks ++ [.policyStarted] ∧ ∀ report ∈ ticks, report.isLifecycle = false := by
  obtain ⟨stands, refused, exit, ticks, parts, exits, within⟩ := lifetime
  obtain ⟨stage, came, same, unfailed⟩ | ⟨_, _, ended, _⟩ := last.outcome_cases
  · have going : stage ≠ .ended none := by
      rintro rfl
      rw [Job.isOver, stands, same] at alive
      contradiction
    rw [came] at exits
    refine ⟨ticks, ?_, within⟩
    rw [parts, unfailed, exits.eq_nil going]
    rfl
  · rw [Job.isOver, stands, ended] at alive
    contradiction

theorem count_eq (lifetime : Lifetime j last told) (report : Report)
    (lifecycle : report.isLifecycle = true) :
    ∃ exit, Exits j.enabled last.Panics last.outcome exit ∧ exit ⊆ told ∧
      told.count report = exit.count report + [Report.policyStarted].count report := by
  obtain ⟨_, refused, exit, ticks, rfl, exits, within⟩ := lifetime
  have absent {reports : List Report} (within : ∀ report ∈ reports, report.isLifecycle = false) :
      reports.count report = 0 :=
    List.count_eq_zero.mpr fun member => by cases lifecycle.symm.trans (within report member)
  refine ⟨exit, exits, ?_, ?_⟩
  · exact List.Subset.trans (List.subset_append_left _ _) (List.subset_append_right _ _)
  · rw [List.count_append, List.count_append, List.count_append, absent within,
      absent (Job.obituary_isLifecycle _ _ _ _), Nat.zero_add, Nat.zero_add]

theorem started (lifetime : Lifetime j last told) : told.count .policyStarted = 1 := by
  obtain ⟨exit, exits, _, counted⟩ := lifetime.count_eq .policyStarted rfl
  rw [counted]
  generalize last.outcome = outcome at exits
  cases exits <;> rfl

/-- The policy is stopped once if the loop was left, unless an event of a cycle was refused. -/
theorem stopped (lifetime : Lifetime j last told) :
    if j.stage = .ended none then
      told.count .policyStopped = 1 ∨
        told.count .policyStopped = 0 ∧ ∃ event, event.isOfCycle = true ∧ .event event true ∈ told
    else told.count .policyStopped = 0 := by
  obtain ⟨exit, exits, within, counted⟩ := lifetime.count_eq .policyStopped rfl
  rw [lifetime.stands, counted]
  unfold Turn.stage
  generalize last.outcome = outcome at exits
  cases exits with
  | ticks | sleeps | unwound => rfl
  | stopped | unheard | failed => exact Or.inl rfl
  | cut cycle => exact Or.inr ⟨rfl, _, cycle, within (List.mem_singleton_self _)⟩

end Lifetime

/-- Every management job that has had a turn has its policy in a lifetime. -/
def Lifelong (done : List Turn) (t : System) : Prop :=
  ∀ job j, t.jobs.get? job = some j → j.kind = .management →
    (j.stage = .spawned ∧ t.books.reportsOf (some job) = []) ∨
      ∃ last, lastTurn? done job = some last ∧ Lifetime j last (t.books.reportsOf (some job))

theorem Lifelong.turnless (lifelong : t.Lifelong done) (attributed : t.Attributed)
    (turnless : t.Turnless next) : next.Lifelong done := by
  intro job j found own
  rw [attributed.reportsOf_turnless turnless]
  obtain ⟨earlier, asked, before, rfl⟩ | ⟨high, _, spawned⟩ := turnless.origin found
  · obtain unborn | ⟨last, latest, lifetime⟩ := lifelong job earlier before own
    · exact Or.inl unborn
    · exact Or.inr ⟨last, latest, lifetime.askIf asked⟩
  · exact Or.inl ⟨spawned, attributed.unborn job high⟩

theorem Lifelong.gives (lifelong : t.Lifelong done) (attributed : t.Attributed)
    (gives : t.Gives a turn next) : next.Lifelong (done ++ [turn]) := by
  have suits := attributed.suits _ _ gives.found
  intro job j found own
  obtain ⟨rfl, rfl⟩ | ⟨different, before⟩ := gives.stored found
  · obtain ⟨rest, adds, exit, later, rfl, exits, within⟩ := gives.departs own suits
    obtain ⟨refused, reports⟩ := adds.reports
    refine Or.inr ⟨turn, lastTurn?_own done turn, rfl, refused, exit, ?_⟩
    rw [gives.books, reports, if_pos rfl, gives.before]
    obtain ⟨first, none⟩ | ⟨last, _, lifetime⟩ := lifelong turn.job turn.standing gives.found own
    · refine ⟨later, ?_, exits, within⟩
      rw [none, if_pos first, own]
      simp
    · obtain ⟨ticks, earlier, within'⟩ := lifetime.ticking gives.unfinished
      refine ⟨later ++ ticks, ?_, exits, List.forall_mem_append.mpr ⟨within, within'⟩⟩
      rw [earlier, if_neg lifetime.begun, own]
      simp
  · rw [lastTurn?_other done different, gives.reportsOf_other suits different]
    exact lifelong job j before own

/-- Whatever ticks come to, whatever the sink refuses and whenever a job is asked to stop: a
management job that has begun has started its policy once and before all else, and stopped it once
after the last tick if it has left its loop, unless it was cut short by a refused event of a
cycle. A panic, be it of a tick or of the pause after one, leaves the policy unstopped. A sink and
a resolver answer or refuse here, but they do not panic. -/
theorem policies_framed (id : Nat) (settings : Settings) (sink : Sink) (moves : List Action)
    (job : JobId) (j : Job) :
    let initial := ofSettings id settings sink
    let t := initial.run moves
    let told := t.books.reportsOf (some job)
    t.jobs.get? job = some j → j.kind = .management →
      (j.stage = .spawned ∧ told = []) ∨
        ∃ last, lastTurn? (initial.turns moves) job = some last ∧ Lifetime j last told ∧
          told.count .policyStarted = 1 ∧
          if j.stage = .ended none then
            told.count .policyStopped = 1 ∨
              told.count .policyStopped = 0 ∧
                ∃ event, event.isOfCycle = true ∧ .event event true ∈ told
          else told.count .policyStopped = 0 := by
  intro initial t told found own
  have lifelong : t.Lifelong (initial.turns moves) :=
    ((attributed_ofSettings id settings sink).turns_keep (P := fun done t => t.Lifelong done)
      (by simp [Lifelong, ofSettings])
      (fun _ _ _ attributed turnless lifelong => lifelong.turnless attributed turnless)
      (fun _ _ _ _ _ attributed gives lifelong => lifelong.gives attributed gives) moves).2
  obtain unborn | ⟨last, latest, lifetime⟩ := lifelong job j found own
  · exact Or.inl unborn
  · exact Or.inr ⟨last, latest, lifetime, lifetime.started, lifetime.stopped⟩

/-- The end of a cycle was refused: the loop is left, and the policy is never stopped. -/
theorem policies_framed_cut :
    let sink : Sink := fun _ e => if e = .policyCycleEnd "p" then some ⟨"sink offline"⟩ else none
    let t := (ofSettings 1 { policyFatal := false, policy := some (.custom "p") } sink).run
      [.start .management, .signal 1 .run, .signal 1 (.tick [] .done)]
    let told := t.books.reportsOf (some 1)
    t.jobs.get? 1 = some ⟨.management, true, .ended none⟩ ∧ told.count .policyStarted = 1 ∧
      told.count .policyStopped = 0 ∧
      ∃ event, event.isOfCycle = true ∧ .event event true ∈ told := by
  intro sink t told
  have found : t.jobs.get? 1 = some ⟨.management, true, .ended none⟩ := by decide +kernel
  obtain ⟨unborn, _⟩ | ⟨_, _, _, started, stopped⟩ := policies_framed 1
    { policyFatal := false, policy := some (.custom "p") } sink
    [.start .management, .signal 1 .run, .signal 1 (.tick [] .done)] 1
    ⟨.management, true, .ended none⟩ found rfl
  · contradiction
  · refine ⟨found, started, ?_⟩
    obtain once | cut := stopped
    · exact absurd once (by decide +kernel)
    · exact cut

end System
end ResourcePool
