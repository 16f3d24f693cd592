import ResourcePool.Proofs.Jobs.Turnover

/-! Calls that start and stop jobs. A call that waits for a job goes on only when it is resumed
after the job ended, and a call that is over stays so. -/
namespace ResourcePool.System

variable {s : System} {a : Action} {kind : JobKind} {c : CallId} {call : Call} {job : JobId}
variable {after : AfterJoin}

theorem get?_setCall (s : System) (c : CallId) (call : Call) :
    (s.setCall c call).calls.get? c = some call :=
  Table.get?_set_self ..

/-! ## What an action puts on record -/

/-- The calls on record after an action: there is a new one, or one that waited went on, was given
up or was resumed. -/
inductive Records (s : System) (a : Action) : Table CallId Call → Prop
  | none : s.Records a s.calls
  | begins {call : Call} : s.present = true →
      (∀ job kind, call = .joining job (.start kind) → a = .start kind) →
      s.Records a (s.calls.set s.fresh call)
  | answers {c : CallId} {before call : Call} : s.calls.get? c = some before →
      before.isWaiting = true → before.isControl = false →
      (∀ job after, call ≠ .joining job after) → s.Records a (s.calls.set c call)
  | cancels {c : CallId} {before : Call} : a = .cancel c → s.calls.get? c = some before →
      before.isWaiting = true → s.Records a (s.calls.set c .cancelled)
  | resumes {c : CallId} {job : JobId} {after : AfterJoin} {call : Call} : a = .resume c →
      s.calls.get? c = some (.joining job after) → call.isStopping = true →
      s.Records a (s.calls.set c call)

/-- A call that does not wait for a job is put on record. -/
def Files (s : System) (c : CallId) (calls : Table CallId Call) : Prop :=
  ∃ call, (∀ job after, call ≠ .joining job after) ∧ calls = s.calls.set c call

theorem recordGet_files (s : System) (c : CallId) (acquisition : Acquisition) :
    s.Files c (s.recordGet c acquisition).calls := by
  cases acquisition <;> exact ⟨_, by simp, rfl⟩

theorem recordInspection_files (s : System) (c : CallId) (inspecting : Inspecting) :
    s.Files c (s.recordInspection c inspecting).calls := by
  cases inspecting <;> exact ⟨_, by simp, rfl⟩

namespace Records
variable {calls : Table CallId Call}

theorem opened (present : s.present = true) (files : s.Files s.fresh calls) :
    s.Records a calls := by
  obtain ⟨call, apart, rfl⟩ := files
  exact .begins present fun job kind same => False.elim (apart job _ same)

theorem answered {before : Call} (found : s.calls.get? c = some before)
    (waiting : before.isWaiting = true) (other : before.isControl = false)
    (files : s.Files c calls) : s.Records a calls := by
  obtain ⟨call, apart, rfl⟩ := files
  exact .answers found waiting other apart

theorem called (records : s.present = true → s.Records a (s.callPool a).calls) :
    s.Records a (if s.present then s.callPool a else s).calls := by
  split
  · rename_i present
    exact records present
  · exact .none

theorem stopping {next : System} (present : s.present = true)
    (leads : Leads (fun _ => True) (fun _ => True) Call.isStopping s.newId.2 s.fresh next) :
    s.Records a next.calls := by
  obtain ⟨call, stops, calls⟩ := leads.calls
  rw [calls]
  refine .begins present fun job kind same => ?_
  subst same
  contradiction

theorem starting (present : s.present = true) :
    s.Records (.start kind) (s.newId.2.startJob s.fresh kind).calls := by
  obtain ⟨failure, started⟩ | ⟨_, started⟩ | ⟨job, next, taken, started⟩ :=
    s.newId.2.startJob_cases s.fresh kind
  · rw [started]
    exact .begins present (by simp)
  · obtain ⟨_, _, spawned⟩ := s.newId.2.spawn_eq kind
    rw [started, spawned]
    exact .begins present (by simp)
  · obtain ⟨_, rfl⟩ := unregister_eq_some taken
    rw [started]
    refine .begins present fun job other same => ?_
    cases same
    rfl

end Records

theorem dropPool_calls (s : System) : s.dropPool.calls = s.calls := by
  unfold dropPool
  split
  · rfl
  · exact (Housekeeping.disableAll s).calls

theorem Transacts.records {next : System} {transaction : Transaction}
    (transacts : s.Transacts a transaction next) : s.Records a next.calls := by
  cases transacts with
  | get present => exact .opened present (recordGet_files _ _ _)
  | tryGet =>
      unfold callPool
      obtain ⟨lease, books⟩ := s.books.tryAcquire
      cases lease <;> exact .none
  | clear | dropped | detached | turned => exact .none
  | abandoned found => exact .cancels rfl found rfl
  | checked _ found | supplied _ found => exact .answered found rfl rfl (recordGet_files _ _ _)

theorem perform_records (orderly : s.Orderly) (a : Action) : s.Records a (s.perform a).calls := by
  obtain ⟨_, _, transacts⟩ | ⟨none, _⟩ := perform_cases orderly a
  · exact transacts.records
  cases a with
  | get | tryGet | clear | dropLease | detach | supply | signal =>
      rw [perform_eq_self rfl none]
      exact .none
  | hold id | letGo id =>
      simp only [perform]
      split <;> exact .none
  | inspect => exact .called fun present => .opened present (recordInspection_files _ _ _)
  | start kind => exact .called fun present => .starting present
  | stop kind =>
      exact .called fun present => .stopping present (s.newId.2.stopEach_leads s.fresh
        fun _ _ => trivial)
  | stopAll =>
      exact .called fun present => .stopping present (s.newId.2.stopEach_leads s.fresh
        fun _ _ => trivial)
  | dropPool => exact .called fun _ => s.dropPool_calls ▸ .none
  | cancel c =>
      simp only [perform]
      split
      · rename_i call found
        cases call with
        | getting | inspecting | joining => exact .cancels rfl found rfl
        | finished | cancelled => exact .none
      · exact .none
  | answer c verdict =>
      simp only [perform]
      split
      · rename_i found
        simp [transaction?, found] at none
      · rename_i i found
        exact .answered found rfl rfl (recordInspection_files _ _ _)
      · exact .none
  | resume c =>
      simp only [perform]
      split
      · rename_i job after found
        split
        · obtain ⟨call, stops, calls⟩ := Leads.calls (s.afterJoin_leads c
            (orderly.present found rfl) _ after (fun _ _ => trivial) fun _ _ _ _ => trivial)
          exact calls ▸ .resumes rfl found stops
        · exact .none
      · exact .none
  | tune tuning => exact .called fun _ => .none
  | pass | setSink => exact .none

theorem step_records (orderly : s.Orderly) (a : Action) : s.Records a (s.step a).calls := by
  obtain same | performed := step_cases s a
  · rw [same]
    exact .none
  · rw [performed, (s.perform a).settle_registry.2.2]
    exact perform_records orderly a

theorem step_eq_self (down : s.books.terminated = true) (a : Action) : s.step a = s :=
  if_pos down

/-! ## Calls that go on -/

namespace Records
variable {calls : Table CallId Call}

theorem keeps_ended (records : s.Records a calls) (orderly : s.Orderly)
    (found : s.calls.get? c = some call) (ended : call.isWaiting = false) :
    calls.get? c = some call := by
  have other {c' : CallId} {before later : Call} (stored : s.calls.get? c' = some before)
      (waiting : before.isWaiting = true) : (s.calls.set c' later).get? c = some call := by
    refine (Table.get?_set_of_ne _ later ?_).trans found
    rintro rfl
    cases found.symm.trans stored
    cases ended.symm.trans waiting
  cases records with
  | none => exact found
  | begins =>
      have earlier : s.fresh ≠ c := Nat.ne_of_gt (orderly.calls c call found)
      exact (Table.get?_set_of_ne _ _ earlier).trans found
  | answers stored waiting => exact other stored waiting
  | cancels _ stored waiting => exact other stored waiting
  | resumes _ stored => exact other stored rfl

theorem keeps_joining (records : s.Records a calls) (orderly : s.Orderly)
    (found : s.calls.get? c = some (.joining job after)) (unresumed : a ≠ .resume c) :
    calls.get? c = some (.joining job after) ∨ calls.get? c = some .cancelled := by
  have other {c' : CallId} {later : Call} (different : c' ≠ c) :
      (s.calls.set c' later).get? c = some (.joining job after) :=
    (Table.get?_set_of_ne _ later different).trans found
  cases records with
  | none => exact Or.inl found
  | begins => exact Or.inl (other (Nat.ne_of_gt (orderly.calls c _ found)))
  | answers stored _ apart =>
      refine Or.inl (other ?_)
      rintro rfl
      cases found.symm.trans stored
      contradiction
  | @cancels c' _ _ stored =>
      by_cases same : c' = c
      · subst same
        exact Or.inr (Table.get?_set_self ..)
      · exact Or.inl (other same)
  | resumes own =>
      refine Or.inl (other ?_)
      rintro rfl
      exact unresumed own

/-- A call that waits in order to start a job did so before, unless it begins. -/
theorem starting_origin (records : s.Records a calls)
    (found : calls.get? c = some (.joining job (.start kind))) :
    s.calls.get? c = some (.joining job (.start kind)) ∨
      s.present = true ∧ a = .start kind ∧ c = s.fresh := by
  have other {c' : CallId} {later : Call} (apart : later ≠ .joining job (.start kind))
      (found : (s.calls.set c' later).get? c = some (.joining job (.start kind))) :
      s.calls.get? c = some (.joining job (.start kind)) := by
    rw [Table.get?_set] at found
    split at found
    · exact False.elim (apart (Option.some.inj found))
    · exact found
  cases records with
  | none => exact Or.inl found
  | begins present own =>
      rw [Table.get?_set] at found
      split at found
      · rename_i same
        exact Or.inr ⟨present, own job kind (Option.some.inj found), same.symm⟩
      · exact Or.inl found
  | answers _ _ _ apart => exact Or.inl (other (apart job _) found)
  | cancels => exact Or.inl (other (by simp) found)
  | resumes _ _ stopping =>
      refine Or.inl (other ?_ found)
      rintro rfl
      contradiction

end Records

theorem step_keeps_ended (orderly : s.Orderly) (found : s.calls.get? c = some call)
    (ended : call.isWaiting = false) (a : Action) : (s.step a).calls.get? c = some call :=
  (step_records orderly a).keeps_ended orderly found ended

theorem step_resume (found : s.calls.get? c = some (.joining job after)) :
    (s.step (.resume c)).calls = s.calls ∨
      ∃ j panic, s.jobs.get? job = some j ∧ j.stage = .ended panic ∧
        s.step (.resume c) = (s.afterJoin c panic after).settle := by
  cases running : s.books.terminated with
  | true => exact Or.inl (congrArg calls (step_eq_self running _))
  | false =>
      simp only [step, running, Bool.false_eq_true, if_false, perform, found]
      split
      · rename_i kind enabled panic stored
        exact Or.inr ⟨_, panic, stored, rfl, rfl⟩
      · exact Or.inl s.settle_registry.2.2

/-- A call that waits for a job goes on when it is resumed after this job ended. -/
theorem step_joining (orderly : s.Orderly) (found : s.calls.get? c = some (.joining job after))
    (a : Action) : (s.step a).calls.get? c = some (.joining job after) ∨
      (s.step a).calls.get? c = some .cancelled ∨
      a = .resume c ∧ ∃ j panic, s.jobs.get? job = some j ∧ j.stage = .ended panic ∧
        s.step a = (s.afterJoin c panic after).settle := by
  by_cases resumed : a = .resume c
  · subst resumed
    obtain same | went := step_resume found
    · exact Or.inl (same ▸ found)
    · exact Or.inr (Or.inr ⟨rfl, went⟩)
  · obtain waits | cancelled := (step_records orderly a).keeps_joining orderly found resumed
    · exact Or.inl waits
    · exact Or.inr (Or.inl cancelled)

/-! ## Calls that begin -/

section
variable (present : s.present = true) (running : s.books.terminated = false)
include present running

theorem step_start : s.step (.start kind) = (s.newId.2.startJob s.fresh kind).settle := by
  simp only [step, running, Bool.false_eq_true, if_false, perform, present, if_true]
  rfl

theorem step_stop : s.step (.stop kind) = (s.newId.2.stopEach s.fresh [kind]).settle := by
  simp only [step, running, Bool.false_eq_true, if_false, perform, present, if_true]
  rfl

theorem step_stopAll : s.step .stopAll = (s.newId.2.stopEach s.fresh JobKind.all).settle := by
  simp only [step, running, Bool.false_eq_true, if_false, perform, present, if_true]
  rfl

end

end ResourcePool.System
