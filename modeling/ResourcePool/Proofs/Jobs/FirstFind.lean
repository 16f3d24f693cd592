import ResourcePool.Proofs.Jobs.Watching

/-! The first addresses that a watching policy finds after its start. Whatever was seen before and
however many looks failed, they count as a change. -/
namespace ResourcePool

namespace Turn
variable {hostname : String} {found : Finset Address} {look : Turn}

theorem Exact.of_unfound (exact : look.Exact hostname ∅) (answer : look.answer? = some ∅) :
    look.Keeps ∧
      look.after.changesOf (some look.job) = look.before.changesOf (some look.job) := by
  refine ⟨exact.kept (adopts?_eq_none fun found other => ?_), exact.reports.trans ?_⟩
  · exact (Option.some.inj (answer.symm.trans other)).symm
  · simp only [changes, answer, if_true, List.nil_append]

theorem Exact.of_found (exact : look.Exact hostname ∅) (answer : look.answer? = some found)
    (other : found ≠ ∅) :
    let change : Event := .addressesChanged hostname 0 found.card
    look.after.changesOf (some look.job) =
        .event change (!look.hears change) :: look.before.changesOf (some look.job) ∧
      (look.hears change = true → look.Clears found) ∧
      (look.hears change = false → look.Keeps) := by
  intro change
  refine ⟨exact.reports.trans ?_, fun heard => ?_, fun refused => ?_⟩
  · simp only [changes, answer, if_neg other, Finset.card_empty, List.cons_append, List.nil_append]
    rfl
  · exact exact.cleared found (adopts?_eq_some.mpr ⟨answer, other, heard⟩)
  · exact exact.kept (adopts?_of_unheard answer refused)

end Turn

namespace System

variable {s t next : System} {a : Action} {turn : Turn} {done : List Turn} {hostname : String}
variable {job : JobId} {moves : List Action}

/-- Nothing counts as seen as long as no look finds an address. -/
structure Unfound (hostname : String) (done : List Turn) (t : System) : Prop where
  policy : Job.policyOf t.books = .addresses hostname
  unseen : (∀ look ∈ done, ∀ found, look.answer? = some found → found = ∅) → t.books.baseline = []

namespace Unfound

theorem turnless (unfound : t.Unfound hostname done) (turnless : t.Turnless next) :
    next.Unfound hostname done where
  policy := (Job.policyOf_congr turnless.books.settings).trans unfound.policy
  unseen := fun empty => turnless.books.baseline.trans (unfound.unseen empty)

theorem gives (unfound : t.Unfound hostname done) (attributed : t.Attributed)
    (gives : t.Gives a turn next) : next.Unfound hostname (done ++ [turn]) where
  policy := (gives.policyOf (attributed.suits _ _ gives.found)).trans unfound.policy
  unseen := by
    intro empty
    obtain ⟨before, last⟩ := List.forall_mem_append.mp empty
    have last : ∀ found, turn.answer? = some found → found = ∅ := List.forall_mem_singleton.mp last
    have none := unfound.unseen before
    rw [gives.books]
    cases look : turn.isLook with
    | true =>
        obtain ⟨resolution, signal⟩ := Turn.isLook_eq_true.mp look
        obtain ⟨exact, _⟩ := gives.exact unfound.policy (none ▸ List.Pairwise.nil) signal
        rw [none] at exact
        have kept := exact.kept (Turn.adopts?_eq_none last)
        rw [kept.baseline, gives.before, none]
    | false =>
        have suits := attributed.suits _ _ gives.found
        rw [gives.baseline unfound.policy suits look, gives.before, none]
        exact ite_self _

theorem run (unfound : t.Unfound hostname []) (attributed : t.Attributed) (actions : List Action) :
    (t.run actions).Unfound hostname (t.turns actions) :=
  (attributed.turns_keep (P := fun done u => u.Unfound hostname done) unfound
    (fun _ _ _ _ turnless unfound => unfound.turnless turnless)
    (fun _ _ _ _ _ attributed gives unfound => unfound.gives attributed gives) actions).2

end Unfound

/-- The first addresses that are found after a watching policy started count as a change, and clear
the pool if the sink hears of it: nothing that was begun by then is ever in the pool again. But an
answer without addresses is no change, be it the first one or not. -/
theorem first_find_clears (id : Nat) (settings : Settings) (sink : Sink) (before : List Action)
    (hostname : String) (job : JobId) (j : Job) (moves : List Action) (job' : JobId) (j' : Job)
    (found : List Address) :
    let s := (ofSettings id settings sink).run before
    let t := s.step (.signal job .run)
    let u := t.run moves
    let v := u.step (.signal job' (.resolved (.ok found)))
    let change : Event := .addressesChanged hostname 0 found.toFinset.card
    settings.policy = some (.addresses hostname) → s.books.terminated = false →
      s.jobs.get? job = some j → j.kind = .management → j.stage = .spawned →
      (∀ look ∈ t.turns moves, ∀ found, look.answer? = some found → found = ∅) →
      u.books.terminated = false → u.jobs.get? job' = some j' → j'.kind = .management →
      j'.stage = .ticking →
      ∃ look, u.turn? (.signal job' (.resolved (.ok found))) = some look ∧
        (found = [] → look.Keeps ∧
          look.after.changesOf (some job') = u.books.changesOf (some job')) ∧
        (found ≠ [] → look.after.changesOf (some job') =
            .event change (!look.hears change) :: u.books.changesOf (some job') ∧
          (look.hears change = true → look.Clears found.toFinset ∧ ∀ later slot entry,
            (v.run later).books.store.slots.get? slot = some entry →
              ¬ v.books.HasBegun entry.resource) ∧
          (look.hears change = false → look.Keeps)) := by
  intro s t u v change policy running stored own spawned empty running' stored' own' ticking
  have initial := attributed_ofSettings id settings sink
  have attributed : s.Attributed := initial.run before
  obtain ⟨nothing, watching⟩ :=
    attributed.started (policyOf_run id sink before policy) running stored own spawned
  have unfound : u.Unfound hostname (t.turns moves) :=
    Unfound.run ⟨watching.policy, fun _ => nothing⟩ (attributed.step _) moves
  have unseen : u.books.baseline = [] := unfound.unseen empty
  have answered : j'.respond u.books (.resolved (.ok found)) =
      some (j'.resolved hostname (.ok found)) := by
    simp only [Job.respond, ticking, unfound.policy, own', if_true]
  let look : Turn := .of job' j' (.resolved (.ok found)) (j'.resolved hostname (.ok found)) u.books
  have given : u.turn? (.signal job' (.resolved (.ok found))) = some look := by
    simp [turn?, running', stored', answered, look]
  have exact : look.Exact hostname ∅ := by
    obtain ⟨exact, _⟩ := Gives.exact (.turn running' stored' answered) unfound.policy
      (unseen ▸ List.Pairwise.nil) rfl
    rwa [unseen] at exact
  refine ⟨look, given, ?_, fun other => ?_⟩
  · rintro rfl
    exact exact.of_unfound rfl
  · have some : found.toFinset ≠ ∅ := fun same => other ((List.toFinset_eq_empty_iff found).mp same)
    obtain ⟨reports, cleared, kept⟩ := exact.of_found rfl some
    refine ⟨reports, fun heard => ⟨cleared heard, ?_⟩, kept⟩
    have sound := orderly_ofSettings id settings sink
    have orderly : u.Orderly := ((sound.run before).step _).run moves
    have dated : u.Dated := (((dated_ofSettings id settings sink).run sound before).step
      (sound.run before) _).run ((sound.run before).step _) moves
    have clears : u.Clears (.signal job' (.resolved (.ok found))) := by
      refine clears_resolved orderly running' stored' own' ticking unfound.policy ?_ ?_ <;>
        rw [unseen]
      · exact fun same => some (by rw [← Address.toFinset_canonical, ← same, List.toFinset_nil])
      · rw [Address.length_canonical]
        exact Option.isNone_iff_eq_none.mp heard
    exact fun later slot entry => clears.not_hasBegun orderly dated later

/-- The first answer has no addresses: what was in the pool before the start stays there. -/
theorem first_find_clears_unfound :
    let s := (ofSettings 1 { policy := some (.addresses "db") } .accepting).run
      [.get, .supply 0 .made, .dropLease 1, .start .management]
    let u := s.step (.signal 3 .run)
    u.books.store.members = [0] ∧
      (u.step (.signal 3 (.resolved (.ok [])))).books.store.members = [0] ∧
      ∃ look, u.turn? (.signal 3 (.resolved (.ok []))) = some look ∧ look.Keeps ∧
        look.after.changesOf (some 3) = u.books.changesOf (some 3) := by
  intro s u
  have stored : s.jobs.get? 3 = some ⟨.management, true, .spawned⟩ := by decide +kernel
  have stored' : u.jobs.get? 3 = some ⟨.management, true, .ticking⟩ := by decide +kernel
  obtain ⟨look, given, unfound, _⟩ := first_find_clears 1 { policy := some (.addresses "db") }
    .accepting [.get, .supply 0 .made, .dropLease 1, .start .management] "db" 3
    ⟨.management, true, .spawned⟩ [] 3 ⟨.management, true, .ticking⟩ [] rfl (by decide +kernel)
    stored rfl rfl (by simp [turns]) (by decide +kernel) stored' rfl rfl
  exact ⟨by decide +kernel, by decide +kernel, look, given, unfound rfl⟩

end System
end ResourcePool
