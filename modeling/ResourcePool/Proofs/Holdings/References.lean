import ResourcePool.Proofs.Holdings.System

/-! No reference is leaked and none is let go of early. -/
namespace ResourcePool

/-- Whether a call is a get or an inspection that is under way. -/
def Call.isInFlight : Call → Bool
  | .getting _ | .inspecting _ => true
  | _ => false

/-- Whether a job is at creating resources or at a health check. -/
def Stage.isInFlight : Stage → Bool
  | .creating _ | .checking _ => true
  | _ => false

namespace System
variable {s : System}

/-- No get, creation of the keeper's, health check or inspection is in flight. -/
structure Quiet (s : System) : Prop where
  calls : ∀ call ∈ s.calls.values, call.isInFlight = false
  jobs : ∀ j ∈ s.jobs.values, j.stage.isInFlight = false

theorem Quiet.inFlight (quiet : s.Quiet) : s.inFlight = 0 := by
  have calls : s.calls.total Call.holdings = 0 := by
    refine List.sum_eq_zero fun holdings member => ?_
    obtain ⟨call, stored, rfl⟩ := List.mem_map.mp member
    cases call with
    | getting | inspecting => cases quiet.calls _ stored
    | joining | finished | cancelled => rfl
  have jobs : s.jobs.total (·.stage.holdings) = 0 := by
    refine List.sum_eq_zero fun holdings member => ?_
    obtain ⟨j, stored, rfl⟩ := List.mem_map.mp member
    have idle := quiet.jobs j stored
    cases standing : j.stage with
    | creating | checking => cases (standing ▸ idle : _ = false)
    | spawned | ticking | sleeping | ended => rfl
  rw [System.inFlight, calls, jobs, add_zero]

/-- All is quiet about a pool that callers gave up and whose jobs are over. -/
theorem Tidy.quiet (tidy : s.Tidy) (orderly : s.Orderly) (absent : s.present = false)
    (ended : ∀ j ∈ s.jobs.values, j.isOver = true) : s.Quiet := by
  constructor
  · intro call stored
    obtain ⟨c, found⟩ := Table.get?_of_mem_values tidy.calls stored
    have idle := orderly.idle absent c call found
    cases call with
    | getting | inspecting => cases idle
    | joining | finished | cancelled => rfl
  · intro j stored
    have isOver := ended j stored
    unfold Job.isOver at isOver
    cases standing : j.stage with
    | creating | checking => simp only [standing, Bool.false_eq_true] at isOver
    | spawned | ticking | sleeping | ended => rfl

/-- The books of a pool are closed as soon as neither callers nor jobs can reach them. -/
theorem closed_settle (absent : s.settle.present = false)
    (ended : ∀ j ∈ s.settle.jobs.values, j.isOver = true) : s.settle.closed = true := by
  unfold settle at absent ended ⊢
  split
  · rfl
  · rename_i undue
    rw [if_neg undue] at absent ended
    have all : s.jobs.values.all Job.isOver = true := List.all_eq_true.mpr ended
    cases closed : s.closed with
    | true => rfl
    | false => simp [absent, closed, all] at undue

theorem step_closes (s : System) (a : Action)
    (before : s.present = false → (∀ j ∈ s.jobs.values, j.isOver = true) → s.closed = true) :
    (s.step a).present = false → (∀ j ∈ (s.step a).jobs.values, j.isOver = true) →
      (s.step a).closed = true := by
  obtain same | performed := step_cases s a
  · rw [same]
    exact before
  · rw [performed]
    exact closed_settle

theorem accounted_ofSettings (id : Nat) (settings : Settings) (sink : Sink) :
    (ofSettings id settings sink).Accounted where
  leases := List.nodup_nil
  held := List.nodup_nil
  calls := List.nodup_nil
  handles := by simp [ofSettings]
  jobs := by simp [JobsNumbered, ofSettings]
  keeps := ⟨.empty, rfl⟩

theorem Orderly.members_of_closed (orderly : s.Orderly) (closed : s.closed = true) :
    s.books.store.members = [] := by
  refine List.map_eq_nil_iff.mpr (List.eq_nil_iff_forall_not_mem.mpr fun slot stored => ?_)
  obtain ⟨id, found⟩ := Table.get?_of_mem_values orderly.custody.sound.keys_distinct stored
  cases (orderly.empty closed id).symm.trans found

/-- In every run, each resource is referenced once for its slot in the store, once for each lease
and each handle by which a caller keeps it, and once for each call or job that has it in hand.
While nothing is in flight the store, leases and handles have all references; once callers gave
the pool up and its jobs are over, leases and handles have. -/
theorem references_accounted (id : Nat) (settings : Settings) (sink : Sink)
    (actions : List Action) :
    let s := (ofSettings id settings sink).run actions
    let references : Multiset Resource := s.books.references
    let stored : Multiset Resource := s.books.store.members
    let leased : Multiset Resource := s.leases.values.map Lease.resource
    let held : Multiset Resource := s.held.values
    references = stored + (leased + held + s.inFlight) ∧
      (s.Quiet → references = stored + (leased + held)) ∧
      (s.present = false → (∀ j ∈ s.jobs.values, j.isOver = true) →
        references = leased + held) := by
  intro s references stored leased held
  have initial := orderly_ofSettings id settings sink
  have orderly : s.Orderly := initial.run actions
  have accounted : s.Accounted := initial.run_keeps (P := Accounted) (accounted_ofSettings ..)
    (fun _ a orderly accounted => accounted.step orderly a) actions
  have closed : s.present = false → (∀ j ∈ s.jobs.values, j.isOver = true) → s.closed = true :=
    initial.run_keeps (by simp [ofSettings]) (fun t a _ => t.step_closes a) actions
  have leases : leased = s.leases.total Lease.holdings :=
    (Table.total_singleton Lease.resource s.leases).symm
  have handles : held = s.held.total fun resource => {resource} :=
    ((Table.total_singleton (fun resource => resource) s.held).trans
      (congrArg _ (List.map_id' _))).symm
  have all : references = stored + (leased + held + s.inFlight) := by
    rw [leases, handles]
    exact accounted.keeps.even.trans (congrArg (· + s.entrusted) s.books.store.coe_members.symm)
  have quiet (quiet : s.Quiet) : references = stored + (leased + held) := by
    rw [all, quiet.inFlight, add_zero]
  refine ⟨all, quiet, fun absent ended => ?_⟩
  have none : stored = 0 :=
    congrArg _ (orderly.members_of_closed (closed absent ended))
  rw [quiet (accounted.toTidy.quiet orderly absent ended), none, zero_add]

/-- A resource was detached and another one is leased; then the pool is given up while its keeper
is at work. -/
theorem references_accounted_given_up :
    let start := ofSettings 1 {} .accepting
    let s := start.run [.get, .supply 0 .made, .get, .supply 2 .made, .detach 1]
    let t := start.run [.get, .supply 0 .made, .get, .supply 2 .made, .detach 1, .start .keeper,
      .dropPool, .signal 6 .run]
    (s.books.references : Multiset Resource) =
        s.books.store.members + (↑(s.leases.values.map Lease.resource) + ↑s.held.values) ∧
      (t.books.references : Multiset Resource) =
        ↑(t.leases.values.map Lease.resource) + ↑t.held.values ∧
      s.books.store.members = [1] ∧ s.books.references = [1, 1, 0] ∧
      t.books.references = [1, 0] := by
  refine ⟨(references_accounted 1 {} .accepting _).2.1 ?_,
    (references_accounted 1 {} .accepting _).2.2 ?_ ?_, ?_, ?_, ?_⟩
  · constructor <;> decide +kernel
  all_goals decide +kernel

end System
end ResourcePool
