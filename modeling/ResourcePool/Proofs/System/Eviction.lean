import ResourcePool.Proofs.System.Run

/-! Evictions by health cycles in a run. A slot whose check did not pass is gone when the cycle
goes on or ends, unless the sink refuses to hear that the check itself failed. -/
namespace ResourcePool.System
open Books (Changes)

variable {s : System} {job : JobId} {j : Job} {round : Health.Round}
variable {slot : SlotId}

theorem lacks_settle (lacks : s.books.Lacks slot) : s.settle.books.Lacks slot := by
  rcases s.settle_cases with same | ⟨_, _, books, settled, store, _⟩
  · rw [same]
    exact lacks
  · rw [settled]
    refine ⟨?_, ?_, ?_⟩ <;> simp only [store]
    · exact .emptied s.books.store
    · exact lacks.opened
    · rfl

theorem Orderly.lacks_step (orderly : s.Orderly) (lacks : s.books.Lacks slot) (a : Action) :
    (s.step a).books.Lacks slot := by
  rcases step_cases s a with same | performed
  · rw [same]
    exact lacks
  · rw [performed]
    exact lacks_settle ((perform_effect orderly a).changes.lacks lacks)

theorem Orderly.lacks_run (orderly : s.Orderly) (lacks : s.books.Lacks slot)
    (actions : List Action) : (s.run actions).books.Lacks slot :=
  orderly.run_keeps (P := fun t => t.books.Lacks slot) lacks
    (fun _ a orderly lacks => orderly.lacks_step lacks a) actions

/-- A slot that leaves the store does not come back. -/
theorem Orderly.lacks_of_gone {entry : Slot Resource} {a : Action} (orderly : s.Orderly)
    (found : s.books.store.slots.get? slot = some entry)
    (gone : (s.step a).books.store.slots.get? slot = none) : (s.step a).books.Lacks slot := by
  have grows : s.books.store.nextId ≤ (s.step a).books.store.nextId := by
    refine orderly.step_keeps (P := fun t => s.books.store.nextId ≤ t.books.store.nextId)
      (Nat.le_refl _) ?_ ?_
    · intro next effect
      obtain ⟨history, _, store⟩ := effect.changes.history
      exact store ▸ orderly.custody.sound.nextId_le_after history
    · intro t books grown store _ _
      simpa only [store] using grown
  have opened := orderly.custody.sound.opened slot entry found
  exact ⟨(orderly.step a).custody.sound, Nat.lt_of_lt_of_le opened grows, gone⟩

/-- A verdict against a resource takes its slot off the books for good, whatever the sink says
of the eviction. Only where the check itself failed and the sink refuses to hear of that, the
cycle ends at once and leaves the store as it is. -/
theorem condemned_evicted (id : Nat) (settings : Settings) (sink : Sink) (actions : List Action)
    (job : JobId) (j : Job) (round : Health.Round) (verdict : Verdict) :
    let s := (ofSettings id settings sink).run actions
    let next := s.step (.signal job (.judge verdict))
    let refused := ∃ text, verdict = .failed text ∧
      s.books.sink s.books.journal (.checkFailed round.slot text) ≠ none
    s.books.terminated = false → s.jobs.get? job = some j → j.stage = .checking round →
      verdict.condemns = true →
      (¬ refused → ∀ later, (next.run later).books.store.slots.get? round.slot = none) ∧
      (refused → next.jobs.get? job = some { j with stage := .ended none } ∧
        (next.closed = false → next.books.store = s.books.store)) := by
  intro s next refused running found standing condemned
  have orderly : s.Orderly := (orderly_ofSettings id settings sink).run actions
  have opened := (orderly.checks job j round found standing).2
  have answered : j.respond s.books (.judge verdict) = some (j.judge round verdict) := by
    simp only [Job.respond, standing]
  have turned := step_signal running found answered
  constructor
  · intro heard later
    have judged : ((j.judge round verdict).after { s.books with actor := some job }).2.Lacks
        round.slot := by
      refine Job.judge_lacks orderly.custody.sound opened condemned fun text failed => ?_
      exact Classical.byContradiction fun refusal => heard ⟨text, failed, refusal⟩
    have gone : next.books.Lacks round.slot := by
      rw [show next = _ from turned]
      exact lacks_settle (Job.turn_lacks judged)
    exact ((orderly.step _).lacks_run gone later).absent
  · rintro ⟨text, rfl, refusal⟩
    obtain ⟨refusal, refuses⟩ := Option.ne_none_iff_exists'.mp refusal
    have judged := Job.judge_refused (b := { s.books with actor := some job }) (j := j) refuses
    rw [Job.turn_error judged] at turned
    have supervised (left : Books) :
        Changes (fun _ => False) left (Job.supervise j.kind (.logging refusal) left) :=
      Job.changes_supervise _ _ _
    have ended (jobs : Table JobId Job) (last : Job) : (jobs.set job last).get? job = some last :=
      (Table.get?_set ..).trans (if_pos rfl)
    rw [show next = _ from turned]
    rcases settle_cases _ with same | ⟨_, _, books, settled, _⟩
    · rw [same]
      exact ⟨ended _ _, fun _ => (supervised _).store_eq⟩
    · rw [settled]
      exact ⟨ended _ _, by simp⟩

/-- A sink without room for failed checks leaves a resource in the pool that was found broken. -/
theorem condemned_evicted_unheard :
    let full : Sink := fun _ event => match event with
      | .checkFailed .. => some ⟨"full"⟩
      | _ => none
    let s := (ofSettings 1 { hasCheck := true } full).run
      [.get, .supply 0 .made, .dropLease 1, .start .health, .signal 3 .run]
    let next := s.step (.signal 3 (.judge (.failed "lost")))
    next.jobs.get? 3 = some ⟨.health, true, .ended none⟩ ∧ next.books.store.members = [0] := by
  have condemned := condemned_evicted 1 { hasCheck := true }
    (fun _ event => match event with
      | .checkFailed .. => some ⟨"full"⟩
      | _ => none)
    [.get, .supply 0 .made, .dropLease 1, .start .health, .signal 3 .run] 3
    ⟨.health, true, .checking ⟨1, 1, ⟨0⟩, 0, []⟩⟩ ⟨1, 1, ⟨0⟩, 0, []⟩ (.failed "lost")
    (by decide) (by decide) rfl rfl
  have ended := (condemned.2 ⟨"lost", rfl, Option.some_ne_none _⟩).1
  exact ⟨ended, by decide⟩

end ResourcePool.System
