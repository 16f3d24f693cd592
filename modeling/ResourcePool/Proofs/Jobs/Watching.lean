import ResourcePool.Proofs.Jobs.Looks
import ResourcePool.Proofs.System.Clearing

/-! A watching policy. It starts with nothing seen, and each of its looks is exact with respect to
what the looks before it adopted. -/
namespace ResourcePool
open Address (Ordered)

/-- The addresses that count as seen after some looks. -/
def seenBy (hostname : String) (looks : List Turn) : Finset Address :=
  looks.foldl (fun seen look => (look.adopts? hostname seen).getD seen) ∅

/-- Each look is exact with respect to what the looks before it adopted. -/
def Turn.AllExact (hostname : String) (looks : List Turn) : Prop :=
  ∀ early look late, looks = early ++ look :: late → look.Exact hostname (seenBy hostname early)

section
variable {hostname : String} {seen found : Finset Address} {look later : Turn}
variable {early middle late looks : List Turn}

theorem seenBy_concat (hostname : String) (looks : List Turn) (look : Turn) :
    seenBy hostname (looks ++ [look]) =
      (look.adopts? hostname (seenBy hostname looks)).getD (seenBy hostname looks) := by
  rw [seenBy, List.foldl_append]
  rfl

theorem Turn.Exact.baseline (exact : look.Exact hostname seen) :
    look.after.baseline.toFinset = (look.adopts? hostname seen).getD seen := by
  cases adopted : look.adopts? hostname seen with
  | some found => exact (exact.cleared found adopted).baseline
  | none => rw [(exact.kept adopted).baseline, exact.before]; rfl

namespace Turn.AllExact

theorem concat (all : AllExact hostname looks)
    (exact : look.Exact hostname (seenBy hostname looks)) :
    AllExact hostname (looks ++ [look]) := by
  intro early look' late split
  rcases List.eq_nil_or_concat late with rfl | ⟨late, last, rfl⟩
  · obtain ⟨rfl, same⟩ := List.append_inj' split rfl
    cases same
    exact exact
  · rw [List.concat_eq_append, ← List.cons_append, ← List.append_assoc] at split
    obtain ⟨same, _⟩ := List.append_inj' split rfl
    exact all early look' late same

theorem left (all : AllExact hostname (early ++ late)) : AllExact hostname early := by
  intro early' look late' split
  refine all early' look (late' ++ late) ?_
  rw [split, List.append_assoc, List.cons_append]

/-- As long as no look clears the pool for some addresses, they do not count as seen. -/
theorem unseen (all : AllExact hostname (early ++ middle)) (other : found ≠ seenBy hostname early)
    (uncleared : ∀ look ∈ middle, ¬ look.Clears found) :
    found ≠ seenBy hostname (early ++ middle) := by
  -- From the end, as what counts as seen is folded from the first look on.
  induction middle using List.reverseRecOn with
  | nil => rwa [List.append_nil]
  | append_singleton middle look ih =>
      rw [← List.append_assoc] at all ⊢
      obtain ⟨before, last⟩ := List.forall_mem_append.mp uncleared
      have exact := all (early ++ middle) look [] rfl
      rw [seenBy_concat]
      cases adopted : look.adopts? hostname (seenBy hostname (early ++ middle)) with
      | none => exact ih all.left before
      | some set =>
          rintro rfl
          exact last look (List.mem_singleton_self _) (exact.cleared _ adopted)

/-- A change that went unheard is not lost: the next look that finds the same addresses and is heard
clears the pool for them. -/
theorem pending (all : AllExact hostname (early ++ look :: (middle ++ later :: late)))
    (answer : look.answer? = some found) (other : found ≠ seenBy hostname early)
    (refused : look.hears
      (.addressesChanged hostname (seenBy hostname early).card found.card) = false)
    (uncleared : ∀ look ∈ middle, ¬ look.Clears found) (answer' : later.answer? = some found)
    (heard : later.hears (.addressesChanged hostname
      (seenBy hostname (early ++ look :: middle)).card found.card) = true) :
    later.Clears found := by
  have first : look.Exact hostname (seenBy hostname early) := all early look _ rfl
  have same : early ++ look :: (middle ++ later :: late) =
      (early ++ look :: middle) ++ later :: late := by simp
  rw [same] at all
  have keeps : look.Keeps := first.kept (adopts?_of_unheard answer refused)
  have unseen := all.left.unseen other
    (List.forall_mem_cons.mpr ⟨fun cleared => cleared.not_keeps keeps, uncleared⟩)
  exact (all _ later late rfl).cleared found (Turn.adopts?_eq_some.mpr ⟨answer', unseen, heard⟩)

end Turn.AllExact
end

/-- Actions that differ at most in the order and the number of the addresses in an answer. -/
inductive Action.Alike : Action → Action → Prop
  | refl {a : Action} : Alike a a
  | answered {job : JobId} {found found' : List Address} : found.toFinset = found'.toFinset →
      Alike (.signal job (.resolved (.ok found))) (.signal job (.resolved (.ok found')))

/-! ## Between two looks -/

theorem Work.Tells.baseline {enabled : Bool} {panics : String → Prop} {work : Work Stage}
    {b : Books} (tells : work.Tells b (Departs (·.isOfCycle = true) enabled panics)) :
    (work.after b).2.baseline = b.baseline := by
  obtain ⟨told, adds, departs⟩ := tells
  exact adds.baseline_eq fun report member => (departs.quiet report member).2

namespace Job
variable {j : Job} {b : Books} {hostname : String}

theorem run_baseline (own : j.kind = .management) (policy : policyOf b = .addresses hostname) :
    (j.run.after b).2.baseline = [] := by
  have looped : (loop j.kind j.enabled).Tells ((policyOf b).start b)
      (Departs (·.isOfCycle = true) j.enabled fun _ => True) := own ▸ loop_tells _
  have started : j.run.after b = (loop j.kind j.enabled).after ((policyOf b).start b) := by
    rw [run, if_pos own]
    rfl
  rw [started, looped.baseline, policy]
  rfl

/-- Apart from looks, a watching policy has nothing seen after its start, and leaves it at what it
was. -/
theorem Responds.baseline {signal : Signal} {work : Work Stage}
    (responds : j.Responds b signal work) (policy : policyOf b = .addresses hostname)
    (suits : j.stage.Suits j.kind) (own : j.kind = .management)
    (idle : ∀ resolution, signal ≠ .resolved resolution) (id : JobId) :
    (work.after { b with actor := some id }).2.baseline =
      if j.stage = .spawned then [] else b.baseline := by
  cases responds with
  | run standing =>
      rw [if_pos standing]
      exact run_baseline own policy
  | @wake nap due standing =>
      have quiet : (j.wake nap).Tells { b with actor := some id }
          (Departs (·.isOfCycle = true) j.enabled fun _ => True) := wake_tells own nap _
      rw [if_neg (by simp [standing])]
      exact quiet.baseline
  | launch standing | deliver _ standing | collect standing | judge _ standing =>
      rw [standing] at suits
      cases own.symm.trans suits
  | resolved resolution => exact False.elim (idle resolution rfl)
  | tick _ _ _ custom => cases custom.symm.trans policy

end Job

namespace System
variable {s t next : System} {a a' : Action} {turn : Turn} {done : List Turn} {hostname : String}
variable {job : JobId} {moves : List Action}

/-- A turn that is no look leaves the baseline, unless it starts the policy. -/
theorem Gives.baseline (gives : s.Gives a turn next)
    (policy : Job.policyOf s.books = .addresses hostname)
    (suits : turn.standing.stage.Suits turn.standing.kind) (idle : turn.isLook = false) :
    turn.after.baseline =
      if turn.standing.kind = .management ∧ turn.standing.stage = .spawned then []
      else turn.before.baseline := by
  by_cases own : turn.standing.kind = .management
  · simp only [own, true_and]
    cases gives with
    | @turn job j signal work running found answered =>
        have other : ∀ resolution, signal ≠ .resolved resolution := by
          rintro _ rfl
          contradiction
        exact (j.turn_concludes job work s.books).baseline.trans
          ((Job.responds answered).baseline policy suits own other job)
  · obtain ⟨told, adds, routine, _⟩ := gives.routine own suits
    rw [if_neg fun start => own start.1]
    obtain same | ⟨report, member, rebases⟩ := adds.baseline
    · exact same
    · cases (Report.rebases_eq_false (routine report member)).symm.trans rebases

/-- A management job is at work on a host of which nothing counted as seen when it started, and no
other is: its looks were exact, and what counts as seen is what they adopted. -/
structure Watching (hostname : String) (job : JobId) (done : List Turn) (t : System) : Prop where
  policy : Job.policyOf t.books = .addresses hostname
  begun : ∃ j, t.jobs.get? job = some j ∧ j.stage ≠ .spawned
  ordered : Ordered t.books.baseline
  seen : t.books.baseline.toFinset = seenBy hostname (done.filter Turn.isLook)
  exact : Turn.AllExact hostname (done.filter Turn.isLook)

theorem Gives.policyOf (gives : s.Gives a turn next)
    (suits : turn.standing.stage.Suits turn.standing.kind) :
    Job.policyOf next.books = Job.policyOf s.books := by
  obtain ⟨_, adds, _⟩ := gives.tells suits
  rw [gives.books, ← gives.before]
  exact Job.policyOf_congr adds.settings

namespace Watching

theorem turnless (watching : t.Watching hostname job done) (attributed : t.Attributed)
    (turnless : t.Turnless next) : next.Watching hostname job done where
  policy := (Job.policyOf_congr turnless.books.settings).trans watching.policy
  begun := by
    obtain ⟨j, found, begun⟩ := watching.begun
    obtain ⟨asked, kept⟩ := attributed.get?_turnless turnless found
    exact ⟨j.askIf asked, kept, begun⟩
  ordered := turnless.books.baseline ▸ watching.ordered
  seen := turnless.books.baseline ▸ watching.seen
  exact := watching.exact

theorem gives (watching : t.Watching hostname job done) (attributed : t.Attributed)
    (gives : t.Gives a turn next) (alone : turn.standing.kind = .management → turn.job = job) :
    next.Watching hostname job (done ++ [turn]) := by
  obtain ⟨policy, ⟨j, found, begun⟩, ordered, seen, exact⟩ := watching
  have suits := attributed.suits _ _ gives.found
  have goes : ∃ j, next.jobs.get? job = some j ∧ j.stage ≠ .spawned := by
    rw [gives.next_eq, Table.get?_set]
    split
    · exact ⟨_, rfl, (gives.stage_suits suits).1⟩
    · exact ⟨j, found, begun⟩
  have policy' := (gives.policyOf suits).trans policy
  cases look : turn.isLook with
  | true =>
      obtain ⟨resolution, signal⟩ := Turn.isLook_eq_true.mp look
      obtain ⟨looked, ordered'⟩ := gives.exact policy ordered signal
      rw [seen] at looked
      refine ⟨policy', goes, gives.books ▸ ordered', ?_, ?_⟩ <;>
        rw [List.filter_append, List.filter_cons_of_pos look, List.filter_nil]
      · rw [seenBy_concat, gives.books, looked.baseline]
      · exact exact.concat looked
  | false =>
      have same : turn.after.baseline = t.books.baseline := by
        rw [gives.baseline policy suits look, if_neg, gives.before]
        -- Only a first turn could empty the baseline, and this job has had its own.
        rintro ⟨own, spawned⟩
        cases alone own
        cases found.symm.trans gives.found
        exact begun spawned
      refine ⟨policy', goes, ?_, ?_, ?_⟩
      · rwa [gives.books, same]
      all_goals rw [List.filter_append, List.filter_cons_of_neg (by simp [look]), List.filter_nil,
        List.append_nil]
      · rw [gives.books, same, seen]
      · exact exact

theorem run (watching : t.Watching hostname job []) (attributed : t.Attributed)
    (alone : ∀ turn ∈ t.turns moves, turn.standing.kind = .management → turn.job = job) :
    (t.run moves).Watching hostname job (t.turns moves) := by
  refine (attributed.turns_keep (P := fun done u =>
    (∀ turn ∈ done, turn.standing.kind = .management → turn.job = job) →
      u.Watching hostname job done) (fun _ => watching) ?_ ?_ moves).2 alone
  · intro done u next attributed turnless watching alone
    exact (watching alone).turnless attributed turnless
  · intro done u a turn next attributed gives watching alone
    obtain ⟨before, last⟩ := List.forall_mem_append.mp alone
    exact (watching before).gives attributed gives (last turn (List.mem_singleton_self _))

end Watching

/-! ## Answers with the same addresses -/

theorem step_alike (s : System) (alike : a.Alike a') : s.step a = s.step a' := by
  cases alike with
  | refl => rfl
  | @answered job found found' same =>
      have answer (j : Job) : j.respond s.books (.resolved (.ok found)) =
          j.respond s.books (.resolved (.ok found')) := by
        simp only [Job.respond, Job.resolved, Policy.watch_congr _ same]
      simp only [step, perform, signalJob, answer]

theorem run_alike {moves' : List Action} (alike : List.Forall₂ Action.Alike moves moves')
    (s : System) : s.run moves = s.run moves' := by
  induction alike generalizing s with
  | nil => rfl
  | cons first _ ih =>
      simp only [run, List.foldl_cons] at ih ⊢
      rw [s.step_alike first, ih]

/-! ## From the start of the policy -/

theorem policyOf_run {settings : Settings} {policy : Policy} (id : Nat) (sink : Sink)
    (actions : List Action) (configured : settings.policy = some policy) :
    Job.policyOf ((ofSettings id settings sink).run actions).books = policy := by
  have same : ((ofSettings id settings sink).run actions).books.settings = settings :=
    (attributed_ofSettings id settings sink).settings_run actions
  rw [Job.policyOf, same, configured, Option.getD_some]

/-- A management job that runs for the first time starts its policy. -/
theorem gives_run {j : Job} (running : s.books.terminated = false)
    (found : s.jobs.get? job = some j) (spawned : j.stage = .spawned) :
    ∃ next, s.Gives (.signal job .run) (.of job j .run j.run s.books) next ∧
      s.step (.signal job .run) = next.settle := by
  have answered : j.respond s.books .run = some j.run := by simp only [Job.respond, spawned]
  exact ⟨_, .turn running found answered, step_signal running found answered⟩

theorem Attributed.started {j : Job} (attributed : s.Attributed)
    (policy : Job.policyOf s.books = .addresses hostname) (running : s.books.terminated = false)
    (found : s.jobs.get? job = some j) (own : j.kind = .management) (spawned : j.stage = .spawned) :
    (s.step (.signal job .run)).books.baseline = [] ∧
      (s.step (.signal job .run)).Watching hostname job [] := by
  obtain ⟨next, gives, stepped⟩ := gives_run running found spawned
  have suits := attributed.suits job j found
  have empty : next.books.baseline = [] := by
    rw [gives.books, gives.baseline policy suits rfl]
    exact if_pos ⟨own, spawned⟩
  have watching : next.Watching hostname job [] := {
    policy := (gives.policyOf suits).trans policy
    begun := by
      rw [gives.next_eq]
      exact ⟨_, Table.get?_set_self _ _ _, (gives.stage_suits suits).1⟩
    ordered := empty ▸ List.Pairwise.nil
    seen := by rw [empty]; rfl
    exact := fun early look late split => by simp at split }
  have turnless := Turnless.settle next
  rw [stepped]
  exact ⟨turnless.books.baseline.trans empty, watching.turnless (attributed.gives gives) turnless⟩

/-- As long as a management job is the only one at work, each look since it started clears the pool
exactly if other addresses were found than those that count as seen and the sink hears of them.
What counts as seen is nothing at first, and then what the latest such look found. A change that
goes unheard is pending until a look finds it again and is heard. Neither the order nor the number
of addresses in an answer matters. -/
theorem looks_exact (id : Nat) (settings : Settings) (sink : Sink) (before : List Action)
    (hostname : String) (job : JobId) (j : Job) (moves : List Action) :
    let s := (ofSettings id settings sink).run before
    let t := s.step (.signal job .run)
    let looks := (t.turns moves).filter Turn.isLook
    settings.policy = some (.addresses hostname) → s.books.terminated = false →
      s.jobs.get? job = some j → j.kind = .management → j.stage = .spawned →
      (∀ turn ∈ t.turns moves, turn.standing.kind = .management → turn.job = job) →
      Turn.AllExact hostname looks ∧
        (t.run moves).books.baseline.toFinset = seenBy hostname looks ∧
        (∀ early look middle later late found,
          looks = early ++ look :: (middle ++ later :: late) →
          look.answer? = some found → found ≠ seenBy hostname early →
          look.hears (.addressesChanged hostname (seenBy hostname early).card found.card) = false →
          (∀ look ∈ middle, ¬ look.Clears found) → later.answer? = some found →
          later.hears (.addressesChanged hostname
            (seenBy hostname (early ++ look :: middle)).card found.card) = true →
          later.Clears found) ∧
        ∀ moves', List.Forall₂ Action.Alike moves moves' →
          ∀ n, t.run (moves.take n) = t.run (moves'.take n) := by
  intro s t looks policy running found own spawned alone
  have initial := attributed_ofSettings id settings sink
  have attributed : s.Attributed := initial.run before
  have policy' : Job.policyOf s.books = .addresses hostname :=
    policyOf_run id sink before policy
  obtain ⟨_, watching⟩ := attributed.started policy' running found own spawned
  have watched := watching.run (attributed.step _) alone
  refine ⟨watched.exact, watched.seen, ?_, fun moves' alike n => ?_⟩
  · intro early look middle later late found split answer other refused uncleared answer' heard
    have all : Turn.AllExact hostname looks := watched.exact
    rw [split] at all
    exact all.pending answer other refused uncleared answer' heard
  · exact run_alike (List.forall₂_take n alike) t

/-- The sink refuses the first change that it is told of: the pool is cleared by the second look,
whose answer has the same address twice. -/
theorem looks_exact_unheard :
    let sink : Sink := fun journal e => match e with
      | .addressesChanged .. =>
          if journal.any (·.report.isChange) then none else some ⟨"sink offline"⟩
      | _ => none
    let settings : Settings := { policy := some (.addresses "db"), policyFatal := false }
    let t := ((ofSettings 1 settings sink).run [.start .management]).step (.signal 1 .run)
    let looks := (t.turns [.signal 1 (.resolved (.ok [.v4 1])), .pass 10000, .signal 1 .wake,
      .signal 1 (.resolved (.ok [.v4 1, .v4 1]))]).filter Turn.isLook
    Turn.AllExact "db" looks ∧
      looks.map Turn.answer? = [some [.v4 1].toFinset, some [.v4 1].toFinset] ∧
      looks.map (·.after.counters.clears) = [0, 1] := by
  intro sink settings t looks
  obtain ⟨exact, _⟩ := looks_exact 1 settings sink [.start .management] "db" 1
    ⟨.management, true, .spawned⟩ [.signal 1 (.resolved (.ok [.v4 1])), .pass 10000,
      .signal 1 .wake, .signal 1 (.resolved (.ok [.v4 1, .v4 1]))] rfl (by decide +kernel)
    (by decide +kernel) rfl rfl (by decide +kernel)
  exact ⟨exact, by decide +kernel, by decide +kernel⟩

end System
end ResourcePool
