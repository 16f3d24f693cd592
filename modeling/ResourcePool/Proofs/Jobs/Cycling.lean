import ResourcePool.Proofs.Jobs.Courses
import ResourcePool.Proofs.Jobs.Turns

/-! Jobs run whole cycles until they are asked to stop. Where all events of a job are heard, its
course goes on with every turn, and no cycle begins once its flag was cleared. -/
namespace ResourcePool

def Turn.begins (turn : Turn) : Bool := turn.standing.begins turn.before turn.signal

theorem Turn.enabled_of_begins {turn : Turn} (begins : turn.begins = true) :
    turn.standing.enabled = true := by
  unfold Turn.begins Job.begins at begins
  split at begins
  · exact begins
  · exact (Bool.and_eq_true_iff.mp begins).1
  · contradiction

/-- The events that users' policies offered of their own in some turns. -/
def offeredIn (turns : List Turn) : List Event := turns.flatMap (·.signal.offered)

/-- The number of cycles that a job began in some turns. -/
def begunIn (turns : List Turn) (job : JobId) : Nat :=
  turns.countP fun turn => turn.job = job && turn.begins

theorem begunIn_append (early late : List Turn) (job : JobId) :
    begunIn (early ++ late) job = begunIn early job + begunIn late job := List.countP_append

theorem begunIn_own (turn : Turn) : begunIn [turn] turn.job = if turn.begins then 1 else 0 := by
  simp [begunIn, List.countP_singleton]

theorem begunIn_other {turn : Turn} {job : JobId} (different : turn.job ≠ job) :
    begunIn [turn] job = 0 := by
  simp [begunIn, different]

namespace System
variable {s t next : System} {a : Action} {turn : Turn} {done : List Turn} {job : JobId} {j : Job}

/-- A turn carries the course of its job on, unless one of its events is refused. -/
theorem Gives.carries {own told : List Event} {n : Nat} (gives : s.Gives a turn next)
    (suits : turn.standing.stage.Suits turn.standing.kind)
    (tolerant : turn.standing.kind = .management → s.books.settings.policyFatal = false)
    (course : Course own (Job.policyOf s.books) turn.standing.kind n turn.standing.stage told)
    (offered : turn.signal.offered ⊆ own) :
    ∃ late, turn.Adds late ∧ (Unheard late ∨ turn.failure? = none ∧
      Job.Carries own (Job.policyOf s.books) turn.standing.kind turn.standing.enabled
        (n + if turn.begins then 1 else 0) turn.stage (told ++ eventsOf late)) := by
  cases gives with
  | @turn job j signal work running found answered =>
      obtain ⟨late, adds, ended⟩ :=
        (Job.responds answered).continues suits tolerant course offered job
      refine ⟨late, Turn.adds_of running adds, ended.imp_right ?_⟩
      rintro ⟨stage, came, carries⟩
      obtain ⟨_, came', stands, none⟩ | ⟨_, failed, _⟩ :=
        (Turn.of job j signal work s.books).outcome_cases
      · cases came.symm.trans came'
        rw [stands]
        exact ⟨none, carries⟩
      · cases came.symm.trans failed

/-- A job whose events were all heard, and whose failed ticks are not fatal, is on its course. -/
structure Cycling (done : List Turn) (t : System) : Prop where
  unborn : ∀ job, t.fresh ≤ job → begunIn done job = 0
  courses : ∀ job j, t.jobs.get? job = some j → ¬ Unheard (t.books.reportsOf (some job)) →
    (j.kind = .management → t.books.settings.policyFatal = false) →
      Job.Carries (offeredIn done) (Job.policyOf t.books) j.kind j.enabled (begunIn done job)
        j.stage (t.books.trace job)

namespace Cycling

theorem turnless (cycling : t.Cycling done) (attributed : t.Attributed)
    (turnless : t.Turnless next) : next.Cycling done where
  unborn := fun job high => cycling.unborn job (Nat.le_trans turnless.fresh high)
  courses := by
    intro job j found heard tolerant
    have settings := turnless.books.settings
    rw [attributed.reportsOf_turnless turnless] at heard
    rw [Books.trace, attributed.reportsOf_turnless turnless, Job.policyOf_congr settings]
    rw [settings] at tolerant
    obtain ⟨earlier, asked, before, rfl⟩ | ⟨high, _, spawned⟩ := turnless.origin found
    · obtain ⟨course, ended⟩ := cycling.courses job earlier before heard tolerant
      refine ⟨course, fun stands => ?_⟩
      simp [Job.askIf, ended stands]
    · rw [attributed.unborn job high, cycling.unborn job high, spawned]
      exact ⟨.unborn, by simp⟩

theorem gives (cycling : t.Cycling done) (attributed : t.Attributed)
    (gives : t.Gives a turn next) : next.Cycling (done ++ [turn]) := by
  have suits := attributed.suits _ _ gives.found
  have fresh : next.fresh = t.fresh := by rw [gives.next_eq]
  constructor
  · intro job high
    rw [fresh] at high
    have different : turn.job ≠ job :=
      Nat.ne_of_lt (Nat.lt_of_lt_of_le (attributed.numbered _ _ gives.found) high)
    rw [begunIn_append, cycling.unborn job high, begunIn_other different]
  · intro job j found heard tolerant
    have settings : next.books.settings = t.books.settings := by
      obtain ⟨_, adds, _⟩ := gives.tells suits
      rw [gives.books, adds.settings, gives.before]
    rw [settings] at tolerant
    rw [Job.policyOf_congr settings, begunIn_append]
    have grown : offeredIn done ⊆ offeredIn (done ++ [turn]) := by
      rw [offeredIn, offeredIn, List.flatMap_append]
      exact List.subset_append_left _ _
    obtain ⟨rfl, rfl⟩ | ⟨different, before⟩ := gives.stored found
    · have silent : ¬ Unheard (t.books.reportsOf (some turn.job)) := by
        obtain ⟨_, adds, _⟩ := gives.tells suits
        obtain ⟨refused, reports⟩ := adds.reports
        rw [gives.books, reports, if_pos rfl, gives.before] at heard
        exact fun unheard => heard (unheard.subset (List.subset_append_right _ _))
      obtain ⟨course, _⟩ := cycling.courses _ _ gives.found silent tolerant
      obtain ⟨late, adds, ended⟩ := gives.carries suits tolerant (course.mono grown) (by
        rw [offeredIn, List.flatMap_append, List.flatMap_singleton]
        exact List.subset_append_right _ _)
      obtain ⟨refused, reports⟩ := adds.reports
      have own := reports (some turn.job)
      rw [if_pos rfl, gives.before] at own
      rw [gives.books] at heard ⊢
      obtain unheard | ⟨none, carries⟩ := ended
      · rw [own] at heard
        refine absurd (unheard.subset ?_) heard
        exact List.Subset.trans (List.subset_append_right _ _) (List.subset_append_left _ _)
      · rw [none, Option.elim_none, List.nil_append] at own
        rw [Books.trace, own, eventsOf_append, begunIn_own]
        exact carries
    · have same := gives.reportsOf_other suits different
      rw [same] at heard
      obtain ⟨course, ended⟩ := cycling.courses job j before heard tolerant
      rw [begunIn_other different, Books.trace, same]
      exact ⟨course.mono grown, ended⟩

end Cycling

end System
end ResourcePool
