import ResourcePool.Proofs.Books.Reports
import ResourcePool.Proofs.Jobs.Control
import ResourcePool.Proofs.System.Passage

/-! What happens besides the turns of jobs: jobs stay where they stand, new ones have not begun,
and what is reported is routine. -/
namespace ResourcePool.System

variable {s t next : System} {a : Action} {job : JobId} {kind : JobKind}

/-- Jobs stay where they stand, and what is reported is routine. -/
structure Turnless (s next : System) : Prop where
  books : Books.Outside s.books next.books
  fresh : s.fresh ≤ next.fresh
  jobs : ∀ job, (∃ asked : Bool, next.jobs.get? job = (s.jobs.get? job).map (Job.askIf asked)) ∨
    s.fresh ≤ job ∧ job < next.fresh ∧ ∃ j, next.jobs.get? job = some j ∧ j.stage = .spawned

namespace Turnless

theorem outside (books : Books.Outside s.books next.books) (jobs : next.jobs = s.jobs)
    (fresh : s.fresh ≤ next.fresh) : Turnless s next where
  books := books
  fresh := fresh
  jobs := fun job => Or.inl ⟨false, by
    rw [jobs]
    cases s.jobs.get? job with
    | none => rfl
    | some j => exact congrArg some (Job.askIf_false nofun).symm⟩

theorem aside (books : Books.Routine s.books next.books) (jobs : next.jobs = s.jobs)
    (fresh : s.fresh ≤ next.fresh) : Turnless s next := outside books.outside jobs fresh

/-- The pool may be tuned, and time may pass. -/
theorem retimed (s : System) (tuning : Tuning) (clock : Nat) :
    Turnless s { s with books := { s.books with tuning, clock } } :=
  outside ⟨tuning, clock, .refl _⟩ rfl (Nat.le_refl _)

theorem refl (s : System) : Turnless s s := aside (.refl _) rfl (Nat.le_refl _)

theorem trans (first : Turnless s t) (second : Turnless t next) : Turnless s next where
  books := first.books.trans second.books
  fresh := Nat.le_trans first.fresh second.fresh
  jobs := by
    intro job
    obtain ⟨later, asked⟩ | ⟨new, spawned⟩ := second.jobs job
    · obtain ⟨earlier, asked'⟩ | ⟨new, low, j, found, spawned⟩ := first.jobs job
      · refine Or.inl ⟨earlier || later, ?_⟩
        rw [asked, asked', Option.map_map]
        have both : earlier = true ∨ later = true ↔ (earlier || later) = true := by simp
        rw [← Job.askIf_congr both]
        exact congrArg (Option.map · _) (funext fun j => Job.askIf_askIf)
      · exact Or.inr ⟨new, Nat.lt_of_lt_of_le low second.fresh, j.askIf later,
          by rw [asked, found, Option.map_some], spawned⟩
    · exact Or.inr ⟨Nat.le_trans first.fresh new, spawned⟩

/-- A job was there before and may have been asked to stop, or has not begun. -/
theorem origin {j : Job} (turnless : Turnless s next) (found : next.jobs.get? job = some j) :
    (∃ (earlier : Job) (asked : Bool), s.jobs.get? job = some earlier ∧ j = earlier.askIf asked) ∨
      s.fresh ≤ job ∧ job < next.fresh ∧ j.stage = .spawned := by
  obtain ⟨asked, kept⟩ | ⟨high, low, new, stored, spawned⟩ := turnless.jobs job
  · obtain ⟨earlier, before, same⟩ := Option.map_eq_some_iff.mp (kept.symm.trans found)
    exact Or.inl ⟨earlier, asked, before, same.symm⟩
  · cases stored.symm.trans found
    exact Or.inr ⟨high, low, spawned⟩

theorem asked {jobs : Table JobId Job} {registry : Table JobKind JobId} {asked : JobId → Prop}
    [DecidablePred asked]
    (stored : ∀ id, jobs.get? id = (s.jobs.get? id).map (Job.askIf (asked id))) :
    Turnless s { s with jobs, registry } where
  books := (Books.Routine.refl _).outside
  fresh := Nat.le_refl _
  jobs := fun id => Or.inl ⟨decide (asked id), by
    rw [Job.askIf_congr decide_eq_true_iff]
    exact stored id⟩

theorem disableAll (s : System) : Turnless s s.disableAll := by
  have stored := s.get?_disableAll
  rw [s.disableAll_eq]
  exact asked stored

theorem spawn (s : System) (kind : JobKind) : Turnless s (s.spawn kind) := by
  obtain ⟨vacated, asked, spawned⟩ := s.spawn_eq kind
  rw [spawned]
  refine ⟨(Books.Routine.refl _).outside, Nat.le_succ _, fun id => ?_⟩
  by_cases new : s.fresh = id
  · refine Or.inr ⟨Nat.le_of_eq new, new ▸ Nat.lt_succ_self _, { kind }, ?_, rfl⟩
    rw [Table.get?_set, if_pos new]
  · refine Or.inl ⟨decide (s.registry.get? kind = some id), ?_⟩
    rw [Job.askIf_congr decide_eq_true_iff]
    exact (Table.get?_set_of_ne _ _ new).trans (asked id)

theorem unregister (taken : s.unregister kind = some (job, next)) : Turnless s next := by
  obtain ⟨_, rfl⟩ := unregister_eq_some taken
  exact asked (s.get?_disable job)

theorem stopEach (s : System) (c : CallId) (kinds : List JobKind) :
    Turnless s (s.stopEach c kinds) := by
  obtain ⟨_, stopped⟩ | ⟨_, _, _, _, t, _, _, taken, stopped⟩ := s.stopEach_cases c kinds
  · rw [stopped]
    exact .aside (.refl _) rfl (Nat.le_refl _)
  · rw [stopped]
    exact (unregister taken).trans (.aside (.refl _) rfl (Nat.le_refl _))

theorem startJob (s : System) (c : CallId) (kind : JobKind) :
    Turnless s (s.startJob c kind) := by
  obtain ⟨_, started⟩ | ⟨_, started⟩ | ⟨_, t, taken, started⟩ := s.startJob_cases c kind
  · rw [started]
    exact .aside (.refl _) rfl (Nat.le_refl _)
  · rw [started]
    exact (spawn s kind).trans (.aside (.refl _) rfl (Nat.le_refl _))
  · rw [started]
    exact (unregister taken).trans (.aside (.refl _) rfl (Nat.le_refl _))

theorem afterJoin (s : System) (c : CallId) (panic : Option String) (after : AfterJoin) :
    Turnless s (s.afterJoin c panic after) := by
  cases panic with
  | some text => exact .aside (.refl _) rfl (Nat.le_refl _)
  | none =>
      cases after with
      | start kind => exact (spawn s kind).trans (.aside (.refl _) rfl (Nat.le_refl _))
      | stop rest => exact stopEach s c rest

theorem recordGet (s : System) (c : CallId) (acquisition : Acquisition) :
    Turnless s (s.recordGet c acquisition) := by
  cases acquisition with
  | leased => exact .aside (.refl _) rfl (Nat.le_succ _)
  | _ => exact .aside (.refl _) rfl (Nat.le_refl _)

theorem recordInspection (s : System) (c : CallId) (inspecting : Inspecting) :
    Turnless s (s.recordInspection c inspecting) := by
  cases inspecting <;> exact .aside (.refl _) rfl (Nat.le_refl _)

theorem settle (s : System) : Turnless s s.settle := by
  obtain ⟨_, jobs, fresh⟩ := s.settle_aside
  refine .aside ?_ jobs (Nat.le_of_eq fresh.symm)
  unfold System.settle
  split
  · exact (Books.Routine.letGoAll _ _).trans (.stored _ _)
  · exact .refl _

theorem dropPool (s : System) : Turnless s s.dropPool := by
  unfold System.dropPool
  split
  · exact .refl s
  · exact (disableAll s).trans (.aside (.refl _) rfl (Nat.le_refl _))

theorem cancelCall (s : System) (c : CallId) (call : Call) : Turnless s (s.cancelCall c call) := by
  cases call with
  | getting acquisition =>
      refine .aside ?_ rfl (Nat.le_refl _)
      cases acquisition with
      | checking lease => exact .release _ _
      | _ => exact .refl _
  | inspecting i => exact .aside (.letGoAll _ _) rfl (Nat.le_refl _)
  | joining | finished | cancelled => exact .aside (.refl _) rfl (Nat.le_refl _)

theorem dropLease (s : System) (id : LeaseId) (lease : Lease) :
    Turnless s (s.dropLease id lease) := by
  refine .aside ?_ rfl (Nat.le_refl _)
  unfold System.dropLease
  split
  · exact .letGo _ _
  · exact .release _ _

theorem detachLease (s : System) (id : LeaseId) (lease : Lease) :
    Turnless s (s.detachLease id lease) := by
  refine .aside ?_ rfl (Nat.le_succ _)
  unfold System.detachLease
  split
  · exact .refl _
  · exact .forget _ _

theorem newId (s : System) : Turnless s s.newId.2 := .aside (.refl _) rfl (Nat.le_succ _)

/-- What callers do to the pool itself. -/
theorem callPool (s : System) (a : Action) : Turnless s (s.callPool a) := by
  have altered {books : Books} (routine : Books.Routine s.books books) :
      Turnless s { s with books } := .aside routine rfl (Nat.le_refl _)
  cases a with
  | get =>
      have acquired : Turnless s { s.newId.2 with books := s.books.acquire.2 } :=
        .aside (.acquire _) rfl (Nat.le_succ _)
      exact acquired.trans (.recordGet _ _ _)
  | tryGet =>
      have acquired := Books.Routine.tryAcquire s.books
      unfold System.callPool
      rcases taken : s.books.tryAcquire with ⟨_ | lease, books⟩ <;> rw [taken] at acquired
      · exact altered acquired
      · exact (altered acquired).trans (.aside (.refl _) rfl (Nat.le_succ _))
  | inspect order =>
      have inspected : Turnless s { s.newId.2 with books := (s.books.inspect order).2 } :=
        .aside (.inspect _ _) rfl (Nat.le_succ _)
      exact inspected.trans (.recordInspection _ _ _)
  | clear => exact altered (.clear _)
  | tune tuning => exact retimed s tuning s.books.clock
  | start kind => exact (newId s).trans (.startJob _ _ _)
  | stop kind => exact (newId s).trans (.stopEach _ _ _)
  | stopAll => exact (newId s).trans (.stopEach _ _ _)
  | dropPool => exact .dropPool s
  | _ => exact .refl s

/-- Only signals give turns. -/
theorem perform (s : System) (apart : ∀ job signal, a ≠ .signal job signal) :
    Turnless s (s.perform a) := by
  have called : Turnless s (if s.present then s.callPool a else s) := by
    split
    · exact callPool s a
    · exact refl s
  cases a with
  | signal job signal => exact False.elim (apart job signal rfl)
  | get | tryGet | clear | inspect | tune | start | stop | stopAll | dropPool => exact called
  | pass ticks => exact retimed s s.books.tuning (s.books.clock + ticks)
  | setSink => exact aside (.aside rfl rfl rfl rfl rfl rfl) rfl (Nat.le_refl _)
  | dropLease id =>
      simp only [System.perform]
      split
      · exact dropLease s id _
      · exact refl s
  | detach id =>
      simp only [System.perform]
      split
      · exact detachLease s id _
      · exact refl s
  | hold id =>
      simp only [System.perform]
      split
      · exact aside (.take _ _) rfl (Nat.le_succ _)
      · exact refl s
  | letGo id =>
      simp only [System.perform]
      split
      · exact aside (.letGo _ _) rfl (Nat.le_refl _)
      · exact refl s
  | cancel c =>
      simp only [System.perform]
      split
      · exact cancelCall s c _
      · exact refl s
  | answer c verdict =>
      simp only [System.perform]
      split
      · rename_i lease _
        have checked : Turnless s { s with books := (s.books.acquireChecked lease verdict).2 } :=
          aside (.acquireChecked _ _ _) rfl (Nat.le_refl _)
        exact checked.trans (recordGet _ _ _)
      · rename_i i _
        have checked : Turnless s { s with books := (s.books.inspectChecked i verdict).2 } :=
          aside (.inspectChecked _ _ _) rfl (Nat.le_refl _)
        exact checked.trans (recordInspection _ _ _)
      · exact refl s
  | supply c supply =>
      simp only [System.perform]
      split
      · rename_i generation call _
        have supplied : Turnless s { s with
            books := (s.books.acquireSupplied generation call supply).2 } :=
          aside (.acquireSupplied _ _ _ _) rfl (Nat.le_refl _)
        exact supplied.trans (recordGet _ _ _)
      · exact refl s
  | resume c =>
      simp only [System.perform]
      split
      · split
        · exact afterJoin s c _ _
        · exact refl s
      · exact refl s

end Turnless

end ResourcePool.System
