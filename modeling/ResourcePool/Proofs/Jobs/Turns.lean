import ResourcePool.Proofs.Jobs.Supervision
import ResourcePool.Proofs.Jobs.Turnless

/-! The turns of a run. A turn adds reports in the name of its job, and nobody else adds to
them. -/
namespace ResourcePool

/-- The panics with which a turn may end its job. -/
def Turn.Panics (turn : Turn) : String → Prop :=
  Job.Panics turn.standing.kind turn.signal turn.before

namespace System

variable {s t next : System} {a : Action} {job : JobId} {j : Job}

/-- The turn that an action gives to a job. -/
def turn? (s : System) : Action → Option Turn
  | .signal job signal =>
      if s.books.terminated then none
      else (s.jobs.get? job).bind fun j =>
        (j.respond s.books signal).map (Turn.of job j signal · s.books)
  | _ => none

def turns (s : System) : List Action → List Turn
  | [] => []
  | a :: rest => (s.turn? a).toList ++ (s.step a).turns rest

theorem turns_append (s : System) (early late : List Action) :
    s.turns (early ++ late) = s.turns early ++ (s.run early).turns late := by
  induction early generalizing s with
  | nil => rfl
  | cons a rest ih =>
      have later := ih (s.step a)
      simp only [List.cons_append, turns, later, List.append_assoc]
      rfl

theorem turns_concat (s : System) (actions : List Action) (a : Action) :
    s.turns (actions ++ [a]) = s.turns actions ++ ((s.run actions).turn? a).toList := by
  rw [turns_append]
  exact congrArg _ (List.append_nil _)

/-- An action gives a turn to a job that answers a signal. -/
inductive Gives (s : System) : Action → Turn → System → Prop
  | turn {job : JobId} {j : Job} {signal : Signal} {work : Work Stage} :
      s.books.terminated = false → s.jobs.get? job = some j →
      j.respond s.books signal = some work →
      s.Gives (.signal job signal) (.of job j signal work s.books)
        { s with
          books := (j.turn job work s.books).2
          jobs := s.jobs.set job (j.turn job work s.books).1 }

namespace Gives
variable {turn : Turn}

theorem action (gives : s.Gives a turn next) : a = .signal turn.job turn.signal := by
  cases gives
  rfl

theorem before (gives : s.Gives a turn next) : turn.before = s.books := by
  cases gives
  rfl

theorem found (gives : s.Gives a turn next) : s.jobs.get? turn.job = some turn.standing := by
  cases gives
  assumption

theorem unfinished (gives : s.Gives a turn next) : turn.standing.isOver = false := by
  cases gives with
  | turn _ _ answered => exact (Job.responds answered).not_isOver

theorem next_eq (gives : s.Gives a turn next) : next = { s with
    books := turn.after
    jobs := s.jobs.set turn.job { turn.standing with stage := turn.stage } } := by
  cases gives
  rw [Turn.stage_of]
  rfl

theorem books (gives : s.Gives a turn next) : next.books = turn.after := by
  rw [gives.next_eq]

/-- Other jobs than that of the turn stay as they are. -/
theorem stored (gives : s.Gives a turn next) (found : next.jobs.get? job = some j) :
    job = turn.job ∧ j = { turn.standing with stage := turn.stage } ∨
      turn.job ≠ job ∧ s.jobs.get? job = some j := by
  rw [gives.next_eq, Table.get?_set] at found
  split at found
  · exact Or.inl ⟨Eq.symm ‹_›, (Option.some.inj found).symm⟩
  · exact Or.inr ⟨‹_›, found⟩

/-- Closing the books after a turn adds nothing to what it left. -/
theorem settles (gives : s.Gives a turn next) : Books.Outside turn.after next.settle.books := by
  have settled := (Turnless.settle next).books
  rwa [gives.books] at settled

/-- A turn of the keeper or the health job. -/
theorem routine (gives : s.Gives a turn next) (other : turn.standing.kind ≠ .management)
    (suits : turn.standing.stage.Suits turn.standing.kind) :
    ∃ told, turn.Adds told ∧ (∀ report ∈ told, report.isRoutine = true) ∧
      ∀ stage, turn.outcome = .ok stage →
        stage.Follows turn.standing.kind turn.standing.enabled turn.Panics := by
  cases gives with
  | turn running found answered =>
      obtain ⟨⟨told, adds, routine⟩, follows⟩ := (Job.responds answered).routine suits other _
      exact ⟨told, Turn.adds_of running adds, routine, follows⟩

/-- A turn of the management job. -/
theorem departs (gives : s.Gives a turn next) (own : turn.standing.kind = .management)
    (suits : turn.standing.stage.Suits turn.standing.kind) :
    ∃ rest, turn.Adds
        (rest ++ if turn.standing.stage = .spawned then [.policyStarted] else []) ∧
      Departs (·.isLifecycle = false) turn.standing.enabled turn.Panics turn.outcome rest := by
  cases gives with
  | turn running found answered =>
      obtain ⟨_, adds, rest, rfl, departs⟩ := (Job.responds answered).tells suits own _
      exact ⟨rest, Turn.adds_of running adds, departs⟩

/-- Whatever its kind, a job that did not fail is over only if it was asked to stop, or by a
panic. -/
theorem tells (gives : s.Gives a turn next)
    (suits : turn.standing.stage.Suits turn.standing.kind) :
    ∃ told, turn.Adds told ∧
      (turn.standing.kind ≠ .management → ∀ report ∈ told, report.isRoutine = true) ∧
      ∀ stage, turn.outcome = .ok stage →
        stage.Follows turn.standing.kind turn.standing.enabled turn.Panics := by
  by_cases own : turn.standing.kind = .management
  · obtain ⟨rest, adds, departs⟩ := gives.departs own suits
    obtain ⟨_, _, _, exits, _⟩ := departs
    refine ⟨_, adds, fun other => False.elim (other own), fun stage came => ?_⟩
    rw [came] at exits
    exact exits.follows own
  · obtain ⟨told, adds, routine, follows⟩ := gives.routine own suits
    exact ⟨told, adds, fun _ => routine, follows⟩

/-- Nothing is reported in the name of another job. -/
theorem reportsOf_other (gives : s.Gives a turn next)
    (suits : turn.standing.stage.Suits turn.standing.kind) (different : turn.job ≠ job) :
    next.books.reportsOf (some job) = s.books.reportsOf (some job) := by
  obtain ⟨_, adds, _⟩ := gives.tells suits
  obtain ⟨refused, reports⟩ := adds.reports
  have other : ¬ some job = some turn.job := fun same => different (Option.some.inj same).symm
  rw [gives.books, reports, if_neg other, List.nil_append, gives.before]

/-- A turn leaves its job at a stage of its kind. -/
theorem stage_suits (gives : s.Gives a turn next)
    (suits : turn.standing.stage.Suits turn.standing.kind) :
    turn.stage ≠ .spawned ∧ turn.stage.Suits turn.standing.kind := by
  obtain ⟨_, _, _, follows⟩ := gives.tells suits
  obtain ⟨stage, came, stands, _⟩ | ⟨_, _, ended, _⟩ := turn.outcome_cases
  · rw [stands]
    refine ⟨?_, (follows stage came).suits⟩
    rintro rfl
    exact follows _ came
  · rw [ended]
    exact ⟨nofun, trivial⟩

end Gives

/-- A step is a turn, or leaves jobs where they stand. -/
theorem step_turns (s : System) (a : Action) :
    (∃ turn next, s.turn? a = some turn ∧ s.Gives a turn next ∧ s.step a = next.settle) ∨
      s.turn? a = none ∧ s.Turnless (s.step a) := by
  by_cases down : s.books.terminated = true
  · have none : s.turn? a = none := by
      cases a with
      | signal => exact if_pos down
      | _ => rfl
    refine Or.inr ⟨none, ?_⟩
    rw [step, if_pos down]
    exact .refl s
  have running := Bool.eq_false_iff.mpr down
  have performed : s.step a = (s.perform a).settle := if_neg down
  cases a with
  | signal job signal =>
      have deaf (ignored : s.perform (.signal job signal) = s) :
          s.Turnless (s.step (.signal job signal)) := by
        rw [performed, ignored]
        exact .settle s
      cases found : s.jobs.get? job with
      | none =>
          exact Or.inr ⟨by simp [turn?, found], deaf (by simp only [perform, signalJob, found])⟩
      | some j =>
          cases answered : j.respond s.books signal with
          | none =>
              exact Or.inr ⟨by simp [turn?, found, answered],
                deaf (by simp only [perform, signalJob, found, answered])⟩
          | some work =>
              exact Or.inl ⟨_, _, by simp [turn?, found, answered, running],
                .turn running found answered, step_signal running found answered⟩
  | _ => exact Or.inr ⟨rfl, performed ▸ (Turnless.perform s (by simp)).trans (.settle _)⟩

/-! ## Runs -/

/-- Between two turns nobody but callers is at work, and what was reported was reported in the
name of jobs that there are, each at a stage of its kind. -/
structure Attributed (s : System) : Prop where
  idle : s.books.actor = none
  numbered : s.JobsNumbered
  unborn : ∀ job, s.fresh ≤ job → s.books.reportsOf (some job) = []
  suits : ∀ job j, s.jobs.get? job = some j → j.stage.Suits j.kind

theorem attributed_ofSettings (id : Nat) (settings : Settings) (sink : Sink) :
    (ofSettings id settings sink).Attributed where
  idle := rfl
  numbered := by simp [ofSettings, JobsNumbered]
  unborn := fun _ _ => rfl
  suits := by simp [ofSettings]

namespace Attributed
variable {turn : Turn}

/-- Callers report nothing in the name of a job. -/
theorem reportsOf_turnless (attributed : s.Attributed) (turnless : s.Turnless next)
    (job : JobId) : next.books.reportsOf (some job) = s.books.reportsOf (some job) := by
  refine turnless.books.other ?_
  rw [attributed.idle]
  simp

theorem turnless (attributed : s.Attributed) (turnless : s.Turnless next) : next.Attributed where
  idle := turnless.books.actor.trans attributed.idle
  numbered := by
    intro job j found
    obtain ⟨earlier, asked, before, _⟩ | ⟨_, low, _⟩ := turnless.origin found
    · exact Nat.lt_of_lt_of_le (attributed.numbered job earlier before) turnless.fresh
    · exact low
  unborn := by
    intro job high
    rw [attributed.reportsOf_turnless turnless]
    exact attributed.unborn job (Nat.le_trans turnless.fresh high)
  suits := by
    intro job j found
    obtain ⟨earlier, asked, before, rfl⟩ | ⟨_, _, spawned⟩ := turnless.origin found
    · exact attributed.suits job earlier before
    · rw [spawned]
      trivial

/-- A job that is there stays there. -/
theorem get?_turnless (attributed : s.Attributed) (turnless : s.Turnless next)
    (found : s.jobs.get? job = some j) :
    ∃ asked : Bool, next.jobs.get? job = some (j.askIf asked) := by
  obtain ⟨asked, kept⟩ | ⟨high, _⟩ := turnless.jobs job
  · exact ⟨asked, by rw [kept, found, Option.map_some]⟩
  · exact False.elim (Nat.not_le_of_lt (attributed.numbered job j found) high)

theorem gives (attributed : s.Attributed) (gives : s.Gives a turn next) : next.Attributed := by
  have suits := attributed.suits turn.job turn.standing gives.found
  obtain ⟨_, adds, _⟩ := gives.tells suits
  have fresh : next.fresh = s.fresh := by rw [gives.next_eq]
  constructor
  · rw [gives.books]
    exact adds.actor
  · intro job j found
    rw [fresh]
    obtain ⟨rfl, rfl⟩ | ⟨_, before⟩ := gives.stored found
    · exact attributed.numbered _ _ gives.found
    · exact attributed.numbered job j before
  · intro job high
    rw [fresh] at high
    have different : turn.job ≠ job :=
      Nat.ne_of_lt (Nat.lt_of_lt_of_le (attributed.numbered _ _ gives.found) high)
    rw [gives.reportsOf_other suits different]
    exact attributed.unborn job high
  · intro job j found
    obtain ⟨rfl, rfl⟩ | ⟨_, before⟩ := gives.stored found
    · exact (gives.stage_suits suits).2
    · exact attributed.suits job j before

theorem step (attributed : s.Attributed) (a : Action) : (s.step a).Attributed := by
  obtain ⟨turn, next, _, gives, stepped⟩ | ⟨_, turnless⟩ := s.step_turns a
  · rw [stepped]
    exact (attributed.gives gives).turnless (.settle next)
  · exact attributed.turnless turnless

/-- What holds of the turns so far and the state they led to, if every turn adds its own to it and
it depends only on what all else leaves alone. -/
theorem turns_keep {P : List Turn → System → Prop} (attributed : s.Attributed) (start : P [] s)
    (turnless : ∀ done t next, t.Attributed → t.Turnless next → P done t → P done next)
    (gives : ∀ done t a turn next, t.Attributed → t.Gives a turn next → P done t →
      P (done ++ [turn]) next) (actions : List Action) :
    (s.run actions).Attributed ∧ P (s.turns actions) (s.run actions) := by
  -- From the end, so that the last turn meets the state that all before it led to.
  induction actions using List.reverseRecOn with
  | nil => exact ⟨attributed, start⟩
  | append_singleton actions a ih =>
      obtain ⟨attributed, holds⟩ := ih
      rw [turns_concat, run_concat]
      refine ⟨attributed.step a, ?_⟩
      obtain ⟨turn, next, given, gives', stepped⟩ | ⟨none, quiet⟩ := (s.run actions).step_turns a
      · rw [given, stepped]
        exact turnless _ next _ (attributed.gives gives') (.settle next)
          (gives _ _ a turn next attributed gives' holds)
      · rw [none, Option.toList_none, List.append_nil]
        exact turnless _ _ _ attributed quiet holds

theorem run (attributed : s.Attributed) (actions : List Action) : (s.run actions).Attributed :=
  (attributed.turns_keep (P := fun _ _ => True) trivial (fun _ _ _ _ _ _ => trivial)
    (fun _ _ _ _ _ _ _ _ => trivial) actions).1

theorem settings_run (attributed : s.Attributed) (actions : List Action) :
    (s.run actions).books.settings = s.books.settings := by
  refine (attributed.turns_keep (P := fun _ t => t.books.settings = s.books.settings) rfl ?_ ?_
    actions).2
  · intro _ t next _ turnless same
    exact turnless.books.settings.trans same
  · intro _ t a turn next attributed gives same
    obtain ⟨_, adds, _⟩ := gives.tells (attributed.suits _ _ gives.found)
    rw [gives.books]
    exact adds.settings.trans (gives.before ▸ same)

end Attributed

end System
end ResourcePool
