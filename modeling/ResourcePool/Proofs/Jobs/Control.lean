import ResourcePool.Proofs.System.Housekeeping

/-! Starting and stopping jobs. A call that starts or stops jobs comes to its end, or takes a
job off the registry and waits for it. -/
namespace ResourcePool

/-- Whether a call is over or waits for a job. -/
def Call.isControl : Call → Bool
  | .joining .. | .finished _ => true
  | _ => false

/-- Whether a call is over or waits for a job before it stops others. -/
def Call.isStopping : Call → Bool
  | .joining _ (.stop _) | .finished _ => true
  | _ => false

theorem Call.isControl_of_isStopping {call : Call} (stopping : call.isStopping = true) :
    call.isControl = true := by
  cases call with
  | joining | finished => rfl
  | getting | inspecting | cancelled => contradiction

namespace Job

theorem isOver_congr {j j' : Job} (stage : j'.stage = j.stage) : j'.isOver = j.isOver := by
  simp only [isOver, stage]

/-- A job that may have been asked to stop. -/
def askIf (asked : Prop) [Decidable asked] (j : Job) : Job :=
  { j with enabled := j.enabled && !decide asked }

section
variable {asked : Prop} [Decidable asked] {j : Job}

theorem askIf_true (holds : asked) : j.askIf asked = { j with enabled := false } := by
  simp [askIf, holds]

theorem askIf_false (fails : ¬ asked) : j.askIf asked = j := by
  simp [askIf, fails]

theorem askIf_congr {other : Prop} [Decidable other] (same : asked ↔ other) :
    askIf asked = askIf other := by
  funext j
  simp only [askIf, same]

theorem askIf_askIf {later : Prop} [Decidable later] :
    (j.askIf asked).askIf later = j.askIf (asked ∨ later) := by
  by_cases holds : asked <;> by_cases follows : later <;> simp [askIf, holds, follows]

/-- Only jobs that were enabled and not asked to stop are enabled. -/
theorem enabled_askIf (enabled : (j.askIf asked).enabled = true) :
    j.enabled = true ∧ ¬ asked := by
  by_cases holds : asked <;> simp_all [askIf]

end
end Job

namespace System
variable {s t next : System} {job : JobId} {kind : JobKind}

/-! ## Asking jobs to stop -/

/-- Only jobs change when one is asked to stop. -/
theorem disable_eq (s : System) (job : JobId) :
    s.disable job = { s with jobs := (s.disable job).jobs } := by
  unfold disable
  split <;> rfl

theorem get?_disable (s : System) (job id : JobId) : (s.disable job).jobs.get? id =
    (s.jobs.get? id).map (Job.askIf (job = id)) := by
  have unasked (different : job ≠ id) (found : Option Job) :
      found.map (Job.askIf (job = id)) = found := by
    cases found with
    | none => rfl
    | some j => exact congrArg some (Job.askIf_false different)
  unfold disable
  cases found : s.jobs.get? job with
  | none =>
      by_cases same : job = id
      · simp only [← same, found, Option.map_none]
      · exact (unasked same _).symm
  | some asked =>
      by_cases same : job = id
      · subst same
        rw [found, Option.map_some, Job.askIf_true rfl]
        exact Table.get?_set_self ..
      · rw [unasked same]
        exact Table.get?_set_of_ne _ _ same

theorem foldl_disable_eq (s : System) (jobs : List JobId) :
    jobs.foldl disable s = { s with jobs := (jobs.foldl disable s).jobs } := by
  induction jobs generalizing s with
  | nil => rfl
  | cons job rest ih =>
      have first := s.disable_eq job
      have later := ih (s.disable job)
      rw [first] at later
      rw [List.foldl_cons, first]
      exact later

theorem get?_foldl_disable (s : System) (jobs : List JobId) (id : JobId) :
    (jobs.foldl disable s).jobs.get? id = (s.jobs.get? id).map (Job.askIf (id ∈ jobs)) := by
  induction jobs generalizing s with
  | nil =>
      cases found : s.jobs.get? id with
      | none => exact found
      | some j => exact found.trans (congrArg some (Job.askIf_false List.not_mem_nil).symm)
  | cons job rest ih =>
      rw [List.foldl_cons, ih, get?_disable, Option.map_map]
      have listed : job = id ∨ id ∈ rest ↔ id ∈ job :: rest := by rw [List.mem_cons, @eq_comm _ id]
      rw [← Job.askIf_congr listed]
      exact congrArg (Option.map · _) (funext fun j => Job.askIf_askIf)

theorem disableAll_eq (s : System) : s.disableAll = { s with jobs := s.disableAll.jobs } :=
  s.foldl_disable_eq s.registry.values

/-- All registered jobs are asked to stop. -/
theorem get?_disableAll (s : System) (id : JobId) : s.disableAll.jobs.get? id =
    (s.jobs.get? id).map (Job.askIf (id ∈ s.registry.values)) :=
  s.get?_foldl_disable s.registry.values id

theorem unregister_eq_none (unregistered : s.unregister kind = none) :
    s.registry.get? kind = none := Option.map_eq_none_iff.mp unregistered

theorem unregister_eq_some (taken : s.unregister kind = some (job, next)) :
    s.registry.get? kind = some job ∧
      next = { s with registry := s.registry.erase kind, jobs := (s.disable job).jobs } := by
  obtain ⟨registered, found, outcome⟩ := Option.map_eq_some_iff.mp taken
  cases outcome
  refine ⟨found, ?_⟩
  unfold disable
  cases s.jobs.get? job <;> rfl

/-- A job that is spawned takes the place of the one that was registered. -/
theorem spawn_eq (s : System) (kind : JobKind) : ∃ vacated : Table JobId Job,
    (∀ id, vacated.get? id =
      (s.jobs.get? id).map (Job.askIf (s.registry.get? kind = some id))) ∧
    s.spawn kind = { s with
      fresh := s.fresh + 1
      jobs := vacated.set s.fresh { kind }
      registry := s.registry.set kind s.fresh } := by
  unfold spawn
  cases s.registry.get? kind with
  | none =>
      refine ⟨s.jobs, fun id => ?_, rfl⟩
      cases found : s.jobs.get? id with
      | none => rfl
      | some j => exact congrArg some (Job.askIf_false nofun).symm
  | some previous =>
      refine ⟨(s.disable previous).jobs, fun id => ?_, ?_⟩
      · have same : previous = id ↔ some previous = some id := Option.some_inj.symm
        rw [get?_disable, Job.askIf_congr same]
      · simp only
        rw [s.disable_eq previous]
        rfl

/-! ## Steps of starting and stopping -/

/-- What starting and stopping is made of, where jobs of some kinds may be hired and jobs of some
kinds struck off the registry. -/
inductive Controls (hires strikes : JobKind → Prop) : System → System → Prop
  | refl (s : System) : Controls hires strikes s s
  | trans {s t next : System} : Controls hires strikes s t → Controls hires strikes t next →
      Controls hires strikes s next
  | newId (s : System) : Controls hires strikes s s.newId.2
  | spawn {s : System} {kind : JobKind} : s.present = true → hires kind →
      Controls hires strikes s (s.spawn kind)
  | unregister {s next : System} {kind : JobKind} {job : JobId} : strikes kind →
      s.unregister kind = some (job, next) → Controls hires strikes s next

namespace Controls
variable {hires strikes : JobKind → Prop}

theorem housekeeping (controls : Controls hires strikes s next) : Housekeeping s next := by
  induction controls with
  | refl s => exact .refl s
  | trans _ _ first second => exact first.trans second
  | newId s => exact .newId s
  | spawn present _ => exact .spawn present _
  | unregister _ taken => exact .unregister taken

/-- Neither the books nor what callers keep is touched. -/
theorem aside (controls : Controls hires strikes s next) :
    next.books = s.books ∧ next.held = s.held := by
  induction controls with
  | refl | newId => exact ⟨rfl, rfl⟩
  | trans _ _ first second => exact ⟨second.1.trans first.1, second.2.trans first.2⟩
  | @spawn s kind =>
      obtain ⟨_, _, spawned⟩ := s.spawn_eq kind
      rw [spawned]
      exact ⟨rfl, rfl⟩
  | unregister _ taken =>
      obtain ⟨_, rfl⟩ := unregister_eq_some taken
      exact ⟨rfl, rfl⟩

end Controls

/-- Kinds without a registered job are passed over; at the first other one the call waits. -/
theorem stopEach_cases (s : System) (c : CallId) (kinds : List JobKind) :
    (∀ kind ∈ kinds, s.registry.get? kind = none) ∧ s.stopEach c kinds = s.finishCall c .done ∨
    ∃ passed kind rest job next, kinds = passed ++ kind :: rest ∧
      (∀ kind ∈ passed, s.registry.get? kind = none) ∧ s.unregister kind = some (job, next) ∧
      s.stopEach c kinds = next.setCall c (.joining job (.stop rest)) := by
  induction kinds with
  | nil => exact Or.inl ⟨by simp, rfl⟩
  | cons kind rest ih =>
      cases taken : s.unregister kind with
      | none =>
          have absent := unregister_eq_none taken
          have passed : s.stopEach c (kind :: rest) = s.stopEach c rest := by
            rw [stopEach, taken]
          rw [passed]
          obtain ⟨none, stopped⟩ | ⟨before, next, after, job, t, split, none, found, stopped⟩ := ih
          · exact Or.inl ⟨List.forall_mem_cons.mpr ⟨absent, none⟩, stopped⟩
          · exact Or.inr ⟨kind :: before, next, after, job, t, by rw [split, List.cons_append],
              List.forall_mem_cons.mpr ⟨absent, none⟩, found, stopped⟩
      | some outcome =>
          obtain ⟨job, next⟩ := outcome
          exact Or.inr ⟨[], kind, rest, job, next, rfl, by simp, taken, by rw [stopEach, taken]⟩

theorem startJob_cases (s : System) (c : CallId) (kind : JobKind) :
    (∃ failure, s.startJob c kind = s.finishCall c (.failed failure)) ∨
    s.registry.get? kind = none ∧ s.startJob c kind = (s.spawn kind).finishCall c .done ∨
    ∃ job next, s.unregister kind = some (job, next) ∧
      s.startJob c kind = next.setCall c (.joining job (.start kind)) := by
  unfold startJob
  cases refusesStart s.books.settings kind with
  | some failure => exact Or.inl ⟨failure, rfl⟩
  | none =>
      cases taken : s.unregister kind with
      | none => exact Or.inr (Or.inl ⟨unregister_eq_none taken, rfl⟩)
      | some outcome =>
          obtain ⟨job, next⟩ := outcome
          exact Or.inr (Or.inr ⟨job, next, rfl, rfl⟩)

/-- Jobs are started and stopped, and a call of some shape is put on record. -/
def Leads (hires strikes : JobKind → Prop) (shape : Call → Bool) (s : System) (c : CallId)
    (next : System) : Prop :=
  ∃ t call, Controls hires strikes s t ∧ shape call = true ∧ next = t.setCall c call

section
variable {hires strikes : JobKind → Prop} {shape : Call → Bool} {c : CallId}

theorem Leads.isControl (leads : Leads hires strikes Call.isStopping s c next) :
    Leads hires strikes Call.isControl s c next := by
  obtain ⟨t, call, controls, stopping, recorded⟩ := leads
  exact ⟨t, call, controls, Call.isControl_of_isStopping stopping, recorded⟩

theorem Leads.calls (leads : Leads hires strikes shape s c next) :
    ∃ call, shape call = true ∧ next.calls = s.calls.set c call := by
  obtain ⟨t, call, controls, shaped, rfl⟩ := leads
  exact ⟨call, shaped, congrArg (Table.set · c call) controls.housekeeping.calls⟩

variable (s c)

theorem stopEach_leads {kinds : List JobKind} (permit : ∀ kind ∈ kinds, strikes kind) :
    Leads hires strikes Call.isStopping s c (s.stopEach c kinds) := by
  obtain ⟨_, stopped⟩ | ⟨passed, kind, rest, job, next, rfl, _, taken, stopped⟩ :=
    s.stopEach_cases c kinds
  · exact ⟨s, _, .refl s, rfl, stopped⟩
  · exact ⟨next, _, .unregister (permit kind (by simp)) taken, rfl, stopped⟩

theorem startJob_leads (present : s.present = true) (hire : hires kind) (strike : strikes kind) :
    Leads hires strikes Call.isControl s c (s.startJob c kind) := by
  obtain ⟨failure, started⟩ | ⟨_, started⟩ | ⟨job, next, taken, started⟩ := s.startJob_cases c kind
  · exact ⟨s, _, .refl s, rfl, started⟩
  · exact ⟨s.spawn kind, _, .spawn present hire, rfl, started⟩
  · exact ⟨next, _, .unregister strike taken, rfl, started⟩

theorem afterJoin_leads (present : s.present = true) (panic : Option String) (after : AfterJoin)
    (hire : ∀ kind, after = .start kind → hires kind)
    (strike : ∀ rest, after = .stop rest → ∀ kind ∈ rest, strikes kind) :
    Leads hires strikes Call.isStopping s c (s.afterJoin c panic after) := by
  cases panic with
  | some text => exact ⟨s, _, .refl s, rfl, rfl⟩
  | none =>
      cases after with
      | start kind => exact ⟨s.spawn kind, _, .spawn present (hire kind rfl), rfl, rfl⟩
      | stop rest => exact s.stopEach_leads c (strike rest rfl)

end
end System
end ResourcePool
