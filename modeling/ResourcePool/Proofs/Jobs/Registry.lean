import ResourcePool.Proofs.Jobs.Control
import ResourcePool.Proofs.System.Passage

/-! The registry of jobs: which jobs are spawned, registered and enabled, and what an action can
change of that. -/
namespace ResourcePool.System

variable {s t next : System} {a : Action} {job : JobId} {j : Job} {kind : JobKind} {c : CallId}

/-! ## What actions may do -/

/-- Whether an action may spawn a job of a kind. -/
def Hires (s : System) (kind : JobKind) : Action → Prop
  | .start other => other = kind ∧ s.present = true
  | .resume c => ∃ job, s.calls.get? c = some (.joining job (.start kind))
  | _ => False

/-- Whether an action stops the jobs of a kind. -/
def stops (s : System) (kind : JobKind) : Action → Bool
  | .stop other => other = kind
  | .stopAll | .dropPool => true
  | .resume c =>
      match s.calls.get? c with
      | some (.joining _ (.stop rest)) => kind ∈ rest
      | _ => false
  | _ => false

/-- Whether an action may take the job of a kind off the registry. -/
def Strikes (s : System) (kind : JobKind) (a : Action) : Prop :=
  s.stops kind a = true ∨ a = .start kind

/-- How the jobs and the registry change, where jobs of some kinds may be hired and jobs of some
kinds struck off the registry. -/
inductive Staffs (hires strikes : JobKind → Prop) : System → System → Prop
  | trans {s t next : System} : Staffs hires strikes s t → Staffs hires strikes t next →
      Staffs hires strikes s next
  | aside {s next : System} : next.jobs = s.jobs → next.registry = s.registry →
      next.present = s.present → s.fresh ≤ next.fresh → Staffs hires strikes s next
  | controls {s next : System} : Controls hires strikes s next → Staffs hires strikes s next
  | progress {s next : System} {job : JobId} {j : Job} (stage : Stage) :
      s.jobs.get? job = some j → j.isOver = false →
      next.jobs = s.jobs.set job { j with stage } → next.registry = s.registry →
      next.present = s.present → s.fresh ≤ next.fresh → Staffs hires strikes s next
  | disableAll (s : System) : (∀ kind, strikes kind) → Staffs hires strikes s s.disableAll
  | retire {s : System} : (∀ kind, strikes kind) →
      (∀ job j, s.jobs.get? job = some j → j.enabled = false) →
      Staffs hires strikes s { s with present := false, registry := {} }

/-- Every enabled job is the one that is registered under its kind. -/
structure Staffed (s : System) : Prop where
  numbered : s.JobsNumbered
  registered : ∀ kind job, s.registry.get? kind = some job →
    ∃ j, s.jobs.get? job = some j ∧ j.kind = kind
  enabled : ∀ job j, s.jobs.get? job = some j → j.enabled = true →
    s.registry.get? j.kind = some job
  absent : s.present = false → ∀ job j, s.jobs.get? job = some j → j.enabled = false

/-! ## Enabled jobs are registered -/

namespace Staffed
variable {hires strikes : JobKind → Prop}

/-- A job that is not registered is not enabled. -/
theorem unregistered (staffed : s.Staffed) (found : s.jobs.get? job = some j)
    (apart : s.registry.get? j.kind ≠ some job) : j.enabled = false := by
  cases enabled : j.enabled with
  | false => rfl
  | true => exact False.elim (apart (staffed.enabled job j found enabled))

/-- A job is registered under its own kind only. -/
theorem kind_eq {other : JobKind} (staffed : s.Staffed) (found : s.registry.get? kind = some job)
    (registered : s.registry.get? other = some job) : other = kind := by
  obtain ⟨j, stored, rfl⟩ := staffed.registered kind job found
  obtain ⟨j', stored', rfl⟩ := staffed.registered other job registered
  cases stored.symm.trans stored'
  rfl

theorem aside (staffed : s.Staffed) (jobs : next.jobs = s.jobs)
    (registry : next.registry = s.registry) (present : next.present = s.present)
    (fresh : s.fresh ≤ next.fresh) : next.Staffed where
  numbered := fun job j found => Nat.lt_of_lt_of_le (staffed.numbered job j (jobs ▸ found)) fresh
  registered := by
    rw [jobs, registry]
    exact staffed.registered
  enabled := by
    rw [jobs, registry]
    exact staffed.enabled
  absent := by
    rw [jobs, present]
    exact staffed.absent

theorem progress (staffed : s.Staffed) (found : s.jobs.get? job = some j) (stage : Stage) :
    ({ s with jobs := s.jobs.set job { j with stage } } : System).Staffed := by
  have stored : ∀ id j', (s.jobs.set job { j with stage }).get? id = some j' →
      ∃ before, s.jobs.get? id = some before ∧ before.kind = j'.kind ∧
        before.enabled = j'.enabled := by
    intro id j' stored
    rw [Table.get?_set] at stored
    split at stored
    · rename_i same
      cases stored
      exact ⟨j, same ▸ found, rfl, rfl⟩
    · exact ⟨j', stored, rfl, rfl⟩
  constructor
  · intro id j' later
    obtain ⟨before, earlier, _⟩ := stored id j' later
    exact staffed.numbered id before earlier
  · intro kind id registered
    obtain ⟨before, earlier, own⟩ := staffed.registered kind id registered
    by_cases same : job = id
    · subst same
      cases found.symm.trans earlier
      exact ⟨{ j with stage }, Table.get?_set_self .., own⟩
    · exact ⟨before, (Table.get?_set_of_ne _ _ same).trans earlier, own⟩
  · intro id j' later enabled
    obtain ⟨before, earlier, kind, flag⟩ := stored id j' later
    exact kind ▸ staffed.enabled id before earlier (flag.trans enabled)
  · intro absent id j' later
    obtain ⟨before, earlier, _, flag⟩ := stored id j' later
    exact flag.symm.trans (staffed.absent absent id before earlier)

theorem unregister (staffed : s.Staffed) (taken : s.unregister kind = some (job, next)) :
    next.Staffed := by
  obtain ⟨found, rfl⟩ := unregister_eq_some taken
  constructor
  · intro id j stored
    rw [get?_disable] at stored
    obtain ⟨before, earlier, _⟩ := Option.map_eq_some_iff.mp stored
    exact staffed.numbered id before earlier
  · intro other id registered
    rw [Table.get?_erase] at registered
    split at registered
    · contradiction
    · obtain ⟨j, stored, own⟩ := staffed.registered other id registered
      exact ⟨j.askIf (job = id), by rw [get?_disable, stored, Option.map_some], own⟩
  · intro id j stored enabled
    rw [get?_disable] at stored
    obtain ⟨before, earlier, rfl⟩ := Option.map_eq_some_iff.mp stored
    obtain ⟨enabled, unasked⟩ := Job.enabled_askIf enabled
    have registered := staffed.enabled id before earlier enabled
    have other : kind ≠ before.kind := by
      rintro rfl
      cases found.symm.trans registered
      exact unasked rfl
    exact (Table.get?_erase_of_ne _ other).trans registered
  · intro absent id j stored
    rw [get?_disable] at stored
    obtain ⟨before, earlier, rfl⟩ := Option.map_eq_some_iff.mp stored
    simp [Job.askIf, staffed.absent absent id before earlier]

theorem spawn (staffed : s.Staffed) (present : s.present = true) (kind : JobKind) :
    (s.spawn kind).Staffed := by
  obtain ⟨vacated, jobs, spawned⟩ := s.spawn_eq kind
  rw [spawned]
  constructor
  · intro id j stored
    rw [Table.get?_set] at stored
    split at stored
    · rename_i same
      exact same ▸ Nat.lt_succ_self s.fresh
    · rw [jobs] at stored
      obtain ⟨before, earlier, _⟩ := Option.map_eq_some_iff.mp stored
      exact Nat.lt_succ_of_lt (staffed.numbered id before earlier)
  · intro other id registered
    rw [Table.get?_set] at registered
    split at registered
    · cases registered
      exact ⟨{ kind }, Table.get?_set_self .., by assumption⟩
    · obtain ⟨j, stored, own⟩ := staffed.registered other id registered
      have old : s.fresh ≠ id := Nat.ne_of_gt (staffed.numbered id j stored)
      refine ⟨j.askIf (s.registry.get? kind = some id),
        (Table.get?_set_of_ne _ _ old).trans ?_, own⟩
      rw [jobs, stored, Option.map_some]
  · intro id j stored enabled
    rw [Table.get?_set] at stored
    split at stored
    · cases stored
      rename_i same
      exact (Table.get?_set ..).trans ((if_pos rfl).trans (congrArg some same))
    · rw [jobs] at stored
      obtain ⟨before, earlier, rfl⟩ := Option.map_eq_some_iff.mp stored
      obtain ⟨enabled, unasked⟩ := Job.enabled_askIf enabled
      have registered := staffed.enabled id before earlier enabled
      have other : kind ≠ before.kind := by
        rintro rfl
        exact unasked registered
      exact (Table.get?_set_of_ne _ _ other).trans registered
  · intro absent
    cases present.symm.trans absent

/-- After all registered jobs were asked to stop no job is enabled. -/
theorem disabled (staffed : s.Staffed) (id : JobId) (j : Job)
    (stored : s.disableAll.jobs.get? id = some j) : j.enabled = false := by
  rw [get?_disableAll] at stored
  obtain ⟨before, earlier, rfl⟩ := Option.map_eq_some_iff.mp stored
  cases enabled : (before.askIf (id ∈ s.registry.values)).enabled with
  | false => rfl
  | true =>
      obtain ⟨enabled, unasked⟩ := Job.enabled_askIf enabled
      have registered := staffed.enabled id before earlier enabled
      exact False.elim (unasked (Table.mem_values_of_get? registered))

theorem disableAll (staffed : s.Staffed) : s.disableAll.Staffed := by
  have jobs := s.get?_disableAll
  have disabled := staffed.disabled
  rw [s.disableAll_eq]
  constructor
  · intro id j stored
    obtain ⟨before, earlier, _⟩ := Option.map_eq_some_iff.mp ((jobs id).symm.trans stored)
    exact staffed.numbered id before earlier
  · intro kind id registered
    obtain ⟨j, stored, own⟩ := staffed.registered kind id registered
    exact ⟨_, (jobs id).trans (congrArg (Option.map _) stored), own⟩
  · intro id j stored enabled
    cases (disabled id j stored).symm.trans enabled
  · exact fun _ => disabled

theorem staffs (staffed : s.Staffed) (staffs : Staffs hires strikes s next) : next.Staffed := by
  induction staffs with
  | trans _ _ first second => exact second (first staffed)
  | aside jobs registry present fresh => exact staffed.aside jobs registry present fresh
  | controls controls =>
      induction controls with
      | refl s => exact staffed
      | trans _ _ first second => exact second (first staffed)
      | newId s => exact staffed.aside rfl rfl rfl (Nat.le_succ _)
      | spawn present _ => exact staffed.spawn present _
      | unregister _ taken => exact staffed.unregister taken
  | progress stage found _ jobs registry present fresh =>
      exact (staffed.progress found stage).aside jobs registry present fresh
  | disableAll s _ => exact staffed.disableAll
  | retire _ disabled =>
      exact {
        numbered := staffed.numbered
        registered := by simp
        enabled := fun job j stored enabled => by cases (disabled job j stored).symm.trans enabled
        absent := fun _ => disabled }

end Staffed

/-! ## Actions -/

theorem settle_registry (s : System) :
    s.settle.registry = s.registry ∧ s.settle.present = s.present ∧ s.settle.calls = s.calls := by
  unfold settle
  split <;> exact ⟨rfl, rfl, rfl⟩

namespace Staffs
variable {hires strikes : JobKind → Prop}

/-- A call on record does not matter to the jobs. -/
theorem leads {shape : Call → Bool} (leads : Leads hires strikes shape s c next) :
    Staffs hires strikes s next := by
  obtain ⟨t, call, controls, _, rfl⟩ := leads
  exact (Staffs.controls controls).trans (.aside rfl rfl rfl (Nat.le_refl _))

theorem called (staffs : s.present = true → Staffs hires strikes s (s.callPool a)) :
    Staffs hires strikes s (if s.present then s.callPool a else s) := by
  split
  · rename_i present
    exact staffs present
  · exact .aside rfl rfl rfl (Nat.le_refl _)

theorem recordGet (s : System) (c : CallId) (acquisition : Acquisition) :
    Staffs hires strikes s (s.recordGet c acquisition) := by
  refine .aside (s.jobs_recordGet c acquisition) ?_ (s.present_recordGet c acquisition)
    (s.fresh_le_recordGet c acquisition)
  cases acquisition <;> rfl

theorem recordInspection (s : System) (c : CallId) (inspecting : Inspecting) :
    Staffs hires strikes s (s.recordInspection c inspecting) := by
  cases inspecting <;> exact .aside rfl rfl rfl (Nat.le_refl _)

theorem transacts {transaction : Transaction} (transacts : s.Transacts a transaction next) :
    Staffs hires strikes s next := by
  have counted (books : Books) (fresh : Nat) (grows : s.fresh ≤ fresh) :
      Staffs hires strikes s { s with books, fresh } := .aside rfl rfl rfl grows
  cases transacts with
  | get => exact (counted _ _ (Nat.le_succ _)).trans (.recordGet _ _ _)
  | checked | supplied => exact (counted _ _ (Nat.le_refl _)).trans (.recordGet _ _ _)
  | tryGet =>
      unfold callPool
      obtain ⟨lease, books⟩ := s.books.tryAcquire
      cases lease with
      | none => exact counted books _ (Nat.le_refl _)
      | some lease => exact .aside rfl rfl rfl (Nat.le_succ _)
  | detached => exact .aside rfl rfl rfl (Nat.le_succ _)
  | clear | dropped | abandoned => exact .aside rfl rfl rfl (Nat.le_refl _)
  | turned found answered =>
      exact .progress _ found (Job.responds answered).not_isOver rfl rfl rfl (Nat.le_refl _)

end Staffs

/-- When callers give a pool up its jobs are asked to stop and taken off the registry. -/
theorem dropPool_staffs {hires strikes : JobKind → Prop} (staffed : s.Staffed)
    (strike : ∀ kind, strikes kind) : Staffs hires strikes s s.dropPool := by
  unfold dropPool
  split
  · exact .aside rfl rfl rfl (Nat.le_refl _)
  · exact (Staffs.disableAll s strike).trans (.retire strike staffed.disabled)

theorem perform_staffs (orderly : s.Orderly) (staffed : s.Staffed) (a : Action) :
    Staffs (s.Hires · a) (s.Strikes · a) s (s.perform a) := by
  obtain ⟨_, _, transacts⟩ | ⟨none, _⟩ := perform_cases orderly a
  · exact .transacts transacts
  have begun {hires strikes : JobKind → Prop} (books : Books) :
      Staffs hires strikes s { s.newId.2 with books } := .aside rfl rfl rfl (Nat.le_succ _)
  cases a with
  | get | tryGet | clear | dropLease | detach | supply | signal =>
      rw [perform_eq_self rfl none]
      exact .aside rfl rfl rfl (Nat.le_refl _)
  | hold id =>
      simp only [perform]
      split
      · exact .aside rfl rfl rfl (Nat.le_succ _)
      · exact .aside rfl rfl rfl (Nat.le_refl _)
  | letGo id =>
      simp only [perform]
      split <;> exact .aside rfl rfl rfl (Nat.le_refl _)
  | inspect order =>
      exact .called fun _ => (begun (s.books.inspect order).2).trans (.recordInspection _ _ _)
  | tune tuning => exact .called fun _ => .aside rfl rfl rfl (Nat.le_refl _)
  | start kind =>
      exact .called fun present => (begun s.books).trans (.leads
        (startJob_leads s.newId.2 s.fresh present ⟨rfl, present⟩ (Or.inr rfl)))
  | stop kind =>
      exact .called fun _ => (begun s.books).trans (.leads
        (stopEach_leads s.newId.2 s.fresh (by simp [Strikes, stops])))
  | stopAll =>
      exact .called fun _ => (begun s.books).trans (.leads
        (stopEach_leads s.newId.2 s.fresh fun _ _ => Or.inl rfl))
  | dropPool => exact .called fun _ => dropPool_staffs staffed fun _ => Or.inl rfl
  | cancel c =>
      simp only [perform]
      split
      · rename_i call _
        cases call <;> exact .aside rfl rfl rfl (Nat.le_refl _)
      · exact .aside rfl rfl rfl (Nat.le_refl _)
  | answer c verdict =>
      simp only [perform]
      split
      · rename_i found
        simp [transaction?, found] at none
      · rename_i i _
        have checked : Staffs (s.Hires · (.answer c verdict)) (s.Strikes · (.answer c verdict)) s
            { s with books := (s.books.inspectChecked i verdict).2 } :=
          .aside rfl rfl rfl (Nat.le_refl _)
        exact checked.trans (.recordInspection _ _ _)
      · exact .aside rfl rfl rfl (Nat.le_refl _)
  | resume c =>
      simp only [perform]
      split
      · rename_i job after found
        split
        · refine .leads (s.afterJoin_leads c (orderly.present found rfl) _ after ?_ ?_)
          · rintro kind rfl
            exact ⟨job, found⟩
          · rintro rest rfl kind member
            exact Or.inl (by simp [stops, found, member])
        · exact .aside rfl rfl rfl (Nat.le_refl _)
      · exact .aside rfl rfl rfl (Nat.le_refl _)
  | pass | setSink => exact .aside rfl rfl rfl (Nat.le_refl _)

theorem step_staffs (orderly : s.Orderly) (staffed : s.Staffed) (a : Action) :
    Staffs (s.Hires · a) (s.Strikes · a) s (s.step a) := by
  obtain same | performed := step_cases s a
  · rw [same]
    exact .aside rfl rfl rfl (Nat.le_refl _)
  · obtain ⟨_, jobs, fresh⟩ := (s.perform a).settle_aside
    obtain ⟨registry, present, _⟩ := (s.perform a).settle_registry
    rw [performed]
    exact (perform_staffs orderly staffed a).trans
      (.aside jobs registry present (Nat.le_of_eq fresh.symm))

theorem staffed_ofSettings (id : Nat) (settings : Settings) (sink : Sink) :
    (ofSettings id settings sink).Staffed := by
  constructor <;> simp [ofSettings, JobsNumbered]

end ResourcePool.System
