import ResourcePool.Proofs.Books.Counting
import ResourcePool.Proofs.Table
import ResourcePool.System.Step

/-! What concerns neither leases nor the store: reports, and starting and stopping jobs. -/
namespace ResourcePool
open Books (Changes)

/-- Calls for something else than a resource. -/
def Call.isPlain : Call → Bool
  | .getting _ => false
  | _ => true

namespace System
variable {s t next : System} {id : JobId} {j : Job} {kind : JobKind} {c : CallId}

/-- Where the jobs stand, in the order in which they were spawned. -/
def stages (s : System) : List Stage := s.jobs.values.map Job.stage

def JobsNumbered (s : System) : Prop := ∀ id j, s.jobs.get? id = some j → id < s.fresh

/-- Jobs of a later state stand where they stood, and those added have not begun. -/
def AddsJobs (s next : System) : Prop :=
  s.JobsNumbered → next.JobsNumbered ∧
    ∃ added, next.stages = s.stages ++ List.replicate added .spawned

namespace AddsJobs

theorem none (fresh : s.fresh ≤ next.fresh) (jobs : next.jobs = s.jobs) : s.AddsJobs next := by
  refine fun numbered => ⟨fun id j found => ?_, 0, ?_⟩
  · exact Nat.lt_of_lt_of_le (numbered id j (jobs ▸ found)) fresh
  · simp only [stages, jobs, List.replicate_zero, List.append_nil]

theorem trans (first : s.AddsJobs t) (second : t.AddsJobs next) : s.AddsJobs next := by
  intro numbered
  obtain ⟨numbered, early, added⟩ := first numbered
  obtain ⟨numbered, late, added'⟩ := second numbered
  refine ⟨numbered, early + late, ?_⟩
  rw [added', added, List.append_assoc, List.replicate_append_replicate]

theorem replaced {asked : Job} (found : s.jobs.get? id = some asked)
    (stage : j.stage = asked.stage) : s.AddsJobs { s with jobs := s.jobs.set id j } := by
  refine fun numbered => ⟨fun other j' stored => ?_, 0, ?_⟩
  · rw [Table.get?_set] at stored
    split at stored
    · rename_i same
      exact same ▸ numbered id asked found
    · exact numbered other j' stored
  · obtain ⟨before, after, earlier, later⟩ := Table.values_set found j
    simp [stages, earlier, later, stage]

theorem spawned (kind : JobKind) (registry : Table JobKind JobId) :
    s.AddsJobs { s with
      fresh := s.fresh + 1, jobs := s.jobs.set s.fresh { kind }, registry } := by
  refine fun numbered => ⟨fun id j stored => ?_, 1, ?_⟩
  · rw [Table.get?_set] at stored
    split at stored
    · rename_i same
      exact same ▸ Nat.lt_succ_self s.fresh
    · exact Nat.lt_succ_of_lt (numbered id j stored)
  · have absent : s.jobs.get? s.fresh = Option.none := by
      cases found : s.jobs.get? s.fresh with
      | none => rfl
      | some j => exact False.elim (Nat.lt_irrefl _ (numbered _ j found))
    simp [stages, Table.values_set_of_absent absent]

end AddsJobs

/-- Jobs stay where they stand, and new ones have not begun. -/
structure Housekeeping (s next : System) : Prop where
  books : Changes (fun _ => False) s.books next.books
  counts : Books.Counts [.unhealthy] [] s.books next.books
  present : next.present = s.present
  closed : next.closed = s.closed
  leases : next.leases = s.leases
  calls : next.calls = s.calls
  fresh : s.fresh ≤ next.fresh
  jobs : ∀ id j, next.jobs.get? id = some j →
    (∃ before, s.jobs.get? id = some before ∧ before.kind = j.kind ∧ before.stage = j.stage) ∨
      j.stage = .spawned ∧ s.present = true
  added : s.AddsJobs next

namespace Housekeeping

theorem change {books : Books} {held : Table HandleId Resource}
    (changes : Changes (fun _ => False) s.books books)
    (counts : Books.Counts [.unhealthy] [] s.books books) :
    Housekeeping s { s with books, held } :=
  ⟨changes, counts, rfl, rfl, rfl, rfl, Nat.le_refl _,
    fun _ j found => Or.inl ⟨j, found, rfl, rfl⟩, .none (Nat.le_refl _) rfl⟩

theorem refl (s : System) : Housekeeping s s := change (.refl _) (.refl _)

theorem trans (first : Housekeeping s t) (second : Housekeeping t next) : Housekeeping s next where
  books := first.books.trans second.books
  counts := first.counts.trans second.counts
  present := second.present.trans first.present
  closed := second.closed.trans first.closed
  leases := second.leases.trans first.leases
  calls := second.calls.trans first.calls
  fresh := Nat.le_trans first.fresh second.fresh
  jobs := by
    intro id j found
    rcases second.jobs id j found with ⟨middle, stored, kind, stage⟩ | ⟨spawned, present⟩
    · rcases first.jobs id middle stored with ⟨before, earlier, kind', stage'⟩ | spawned
      · exact Or.inl ⟨before, earlier, kind'.trans kind, stage'.trans stage⟩
      · exact Or.inr (stage ▸ spawned)
    · exact Or.inr ⟨spawned, first.present ▸ present⟩
  added := first.added.trans second.added

theorem newId (s : System) : Housekeeping s s.newId.2 :=
  ⟨.refl _, .refl _, rfl, rfl, rfl, rfl, Nat.le_succ _,
    fun _ j found => Or.inl ⟨j, found, rfl, rfl⟩, .none (Nat.le_succ _) rfl⟩

theorem disable (s : System) (job : JobId) : Housekeeping s (s.disable job) := by
  unfold System.disable
  split
  · rename_i asked found
    refine ⟨.refl _, .refl _, rfl, rfl, rfl, rfl, Nat.le_refl _, fun id j stored => ?_,
      .replaced found rfl⟩
    rw [Table.get?_set] at stored
    split at stored
    · rename_i same
      cases stored
      exact Or.inl ⟨asked, same ▸ found, rfl, rfl⟩
    · exact Or.inl ⟨j, stored, rfl, rfl⟩
  · exact .refl s

theorem disableAll (s : System) : Housekeeping s s.disableAll := by
  unfold System.disableAll
  generalize s.registry.values = jobs
  induction jobs generalizing s with
  | nil => exact .refl s
  | cons job rest ih => exact (disable s job).trans (ih (s.disable job))

theorem spawn (present : s.present = true) (kind : JobKind) : Housekeeping s (s.spawn kind) := by
  have added : ∀ t : System, t.present = true → Housekeeping t { t with
      fresh := t.fresh + 1, jobs := t.jobs.set t.fresh { kind },
      registry := t.registry.set kind t.fresh } := by
    intro t present
    refine ⟨.refl _, .refl _, rfl, rfl, rfl, rfl, Nat.le_succ _, fun id j stored => ?_,
      .spawned kind _⟩
    rw [Table.get?_set] at stored
    split at stored
    · cases stored
      exact Or.inr ⟨rfl, present⟩
    · exact Or.inl ⟨j, stored, rfl, rfl⟩
  unfold System.spawn
  split
  · have disabled := disable s
    exact (disabled _).trans (added _ ((disabled _).present.trans present))
  · exact added s present

theorem unregister {job : JobId} (taken : s.unregister kind = some (job, next)) :
    Housekeeping s next := by
  obtain ⟨registered, _, outcome⟩ := Option.map_eq_some_iff.mp taken
  cases outcome
  have struck : Housekeeping s { s with registry := s.registry.erase kind } :=
    ⟨.refl _, .refl _, rfl, rfl, rfl, rfl, Nat.le_refl _,
      fun _ j found => Or.inl ⟨j, found, rfl, rfl⟩, .none (Nat.le_refl _) rfl⟩
  exact struck.trans (disable _ _)

end Housekeeping

/-- Stopping comes to an end or to a job to wait for. -/
theorem stopEach_housekeeping (s : System) (c : CallId) (kinds : List JobKind) :
    ∃ t call, Housekeeping s t ∧ call.isPlain ∧ s.stopEach c kinds = t.setCall c call := by
  induction kinds with
  | nil => exact ⟨s, .finished .done, .refl s, rfl, rfl⟩
  | cons kind rest ih =>
      unfold stopEach
      split
      · exact ih
      · rename_i job t taken
        exact ⟨t, .joining job (.stop rest), .unregister taken, rfl, rfl⟩

theorem startJob_housekeeping (present : s.present = true) (c : CallId) (kind : JobKind) :
    ∃ t call, Housekeeping s t ∧ call.isPlain ∧ s.startJob c kind = t.setCall c call := by
  unfold startJob
  split
  · exact ⟨s, _, .refl s, rfl, rfl⟩
  · split
    · exact ⟨s.spawn kind, _, .spawn present kind, rfl, rfl⟩
    · rename_i job t taken
      exact ⟨t, .joining job (.start kind), .unregister taken, rfl, rfl⟩

theorem afterJoin_housekeeping (present : s.present = true) (c : CallId) (panic : Option String)
    (after : AfterJoin) :
    ∃ t call, Housekeeping s t ∧ call.isPlain ∧ s.afterJoin c panic after = t.setCall c call := by
  cases panic with
  | some text => exact ⟨s, _, .refl s, rfl, rfl⟩
  | none =>
      cases after with
      | start kind => exact ⟨s.spawn kind, _, .spawn present kind, rfl, rfl⟩
      | stop rest => exact s.stopEach_housekeeping c rest

end System
end ResourcePool
