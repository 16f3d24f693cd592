import ResourcePool.Proofs.System.Passage
import ResourcePool.Proofs.Upkeep.Batch

/-! The ledger of factory calls. Every call that ended was counted, as a creation or as a failure,
or waits in a batch of the keeper's to be; but a panic of a call that a get waits for is not
counted, and neither is what is lost with a batch that a refused report cuts short. -/
namespace ResourcePool.System

variable {counter : Counter}
variable {s next : System} {a : Action} {done : List Passage} {transaction : Transaction}

/-- Ended calls that wait in batches of the keeper's to be counted. -/
def unsettled (s : System) : List (Resource × Supply) := s.stages.flatMap Stage.unsettled

/-- Ended calls that a transaction leaves uncounted for good. -/
def Passage.lost (passage : Passage) : List (Resource × Supply) :=
  match passage.transaction with
  | .supplied _ _ call supply => supply.uncounted call
  | .turned job j signal => j.stage.lost { passage.before.books with actor := some job } signal
  | _ => []

/-- Only a turn of a job changes where jobs stand. -/
theorem Transacts.jobs_eq (transacts : s.Transacts a transaction next)
    (other : ∀ job j signal, transaction ≠ .turned job j signal) : next.jobs = s.jobs := by
  cases transacts with
  | get | checked | supplied => exact jobs_recordGet ..
  | tryGet =>
      unfold callPool
      rcases s.books.tryAcquire with ⟨_ | lease, books⟩ <;> rfl
  | turned => exact False.elim (other _ _ _ rfl)
  | _ => rfl

theorem Transacts.jobsNumbered (transacts : s.Transacts a transaction next)
    (grows : s.fresh ≤ next.fresh) (numbered : s.JobsNumbered) : next.JobsNumbered := by
  by_cases turn : ∃ job j signal, transaction = .turned job j signal
  · obtain ⟨job, j, signal, rfl⟩ := turn
    cases transacts with
    | turned found answered =>
        intro id j' stored
        rw [Table.get?_set] at stored
        split at stored
        · rename_i same
          exact same ▸ numbered job j found
        · exact numbered id j' stored
  · exact (AddsJobs.none grows (transacts.jobs_eq fun job j signal same =>
      turn ⟨job, j, signal, same⟩) numbered).1

/-- A turn changes what is left to be counted at its own job only. -/
theorem tally_unsettled_set {job : JobId} {j : Job} (counter : Counter)
    (found : s.jobs.get? job = some j) (j' : Job) (books : Books) : ∃ others,
      tally counter s.unsettled = tally counter j.stage.unsettled + others ∧
      tally counter ({ s with books, jobs := s.jobs.set job j' } : System).unsettled =
        tally counter j'.stage.unsettled + others := by
  obtain ⟨before, after, earlier, later⟩ := Table.values_set found j'
  refine ⟨tally counter ((before ++ after).flatMap (·.stage.unsettled)), ?_, ?_⟩ <;>
    simp only [unsettled, stages, earlier, later, List.flatMap_map, List.flatMap_append,
      List.flatMap_cons, tally_append] <;>
    omega

/-- A transaction counts the calls that end in it, leaves them to be counted, or loses them. -/
theorem Transacts.account (kind : counter = .created ∨ counter = .factoryFailures)
    (transacts : s.Transacts a transaction next) :
    next.books.account counter (next.unsettled ++ Passage.lost ⟨s, transaction, next⟩) =
      s.books.account counter (s.unsettled ++ transaction.ended) := by
  have counts := transacts.counts
  have jobs := transacts.jobs_eq
  have aside (jobs : next.jobs = s.jobs)
      (none : Passage.lost ⟨s, transaction, next⟩ = transaction.ended)
      (spared : counter ∉ transaction.counters) :
      next.books.account counter (next.unsettled ++ Passage.lost ⟨s, transaction, next⟩) =
        s.books.account counter (s.unsettled ++ transaction.ended) := by
    have same : next.unsettled = s.unsettled := by simp only [unsettled, stages, jobs]
    rw [none, same]
    exact counts.account_eq spared _
  cases transacts with
  | @turned job j signal work found answered =>
      have turned := Job.turn_account kind answered job
      obtain ⟨others, before, after⟩ := tally_unsettled_set counter found
        (j.turn job work s.books).1 (j.turn job work s.books).2
      refine Books.account_shift others turned ?_ ?_
      · simp only [Transaction.ended, tally_append, before]
        omega
      · simp only [tally_append, after, Passage.lost]
        omega
  | @supplied c generation call supply found =>
      have supplied := s.books.account_acquireSupplied kind generation call supply
      have same : System.unsettled (System.recordGet { s with
          books := (s.books.acquireSupplied generation call supply).2 } c
          (s.books.acquireSupplied generation call supply).1) = s.unsettled := by
        simp only [unsettled, stages, jobs_recordGet]
      rw [books_recordGet, same]
      refine Books.account_shift (tally counter s.unsettled) supplied ?_ ?_ <;>
        simp only [Passage.lost, Transaction.ended, tally_append] <;> omega
  | checked verdict found =>
      refine aside (jobs (by simp)) rfl (Counter.not_mem_of_calls kind ?_ ?_) <;>
        cases verdict <;> simp [Transaction.counters, Verdict.counters]
  | _ =>
      refine aside (jobs (by simp)) rfl (Counter.not_mem_of_calls kind ?_ ?_) <;>
        simp [Transaction.counters]

/-! ## Runs -/

/-- Ended calls against the counters, calls that are still to be counted and lost ones. -/
structure Audited (done : List Passage) (s : System) : Prop where
  numbered : s.JobsNumbered
  even : ∀ counter, counter = .created ∨ counter = .factoryFailures →
    s.books.account counter (s.unsettled ++ done.flatMap Passage.lost) =
      .ofNat (tally counter s.books.endings)

namespace Audited

theorem append (audited : Audited done s) (orderly : s.Orderly)
    (transacts : s.Transacts a transaction next) :
    Audited (done ++ [⟨s, transaction, next⟩]) next := by
  refine ⟨transacts.jobsNumbered (transacts.effect orderly).fresh audited.numbered, ?_⟩
  intro counter kind
  have before := audited.even counter kind
  rw [Books.account_append] at before
  have shifted : next.books.account counter
      (next.unsettled ++ List.flatMap Passage.lost (done ++ [⟨s, transaction, next⟩])) =
        s.books.account counter
          (s.unsettled ++ transaction.ended ++ done.flatMap Passage.lost) := by
    refine Books.account_shift (tally counter (done.flatMap Passage.lost))
      (transacts.account kind) (tally_append ..) ?_
    simp only [List.flatMap_append, List.flatMap_singleton, tally_append]
    omega
  rw [shifted, Books.account_append, Books.account_append, transacts.counts.endings, tally_append,
    UInt64.ofNat_add, ← before, UInt64.add_comm (.ofNat _), UInt64.add_assoc, UInt64.add_assoc,
    UInt64.add_comm (.ofNat (tally counter transaction.ended))]

theorem untouched (audited : Audited done s) (untouched : s.Untouched next) :
    Audited done next := by
  obtain ⟨numbered, added, stages⟩ := untouched.jobs audited.numbered
  refine ⟨numbered, fun counter kind => ?_⟩
  have none : (List.replicate added Stage.spawned).flatMap Stage.unsettled = [] := by
    refine List.flatMap_eq_nil_iff.mpr fun stage member => ?_
    rw [List.eq_of_mem_replicate member]
    rfl
  have same : next.unsettled = s.unsettled := by
    rw [unsettled, stages, List.flatMap_append, none, List.append_nil, unsettled]
  rw [same, untouched.counts.endings, List.nil_append, ← audited.even counter kind]
  exact untouched.counts.account_eq (by rcases kind with rfl | rfl <;> simp) _

theorem settle (audited : Audited done s) : Audited done s.settle := by
  obtain ⟨_, jobs, fresh⟩ := s.settle_aside
  refine ⟨fun id j found => fresh ▸ audited.numbered id j (jobs ▸ found), fun counter kind => ?_⟩
  have same : s.settle.unsettled = s.unsettled := by simp only [unsettled, stages, jobs]
  rw [same, s.settle_counts.endings, List.nil_append, ← audited.even counter kind]
  exact s.settle_counts.account_eq List.not_mem_nil _

end Audited

/-- In every run, while the keeper is not at making resources, the factory calls that ended with a
resource are those counted as created, and those that failed or panicked are those counted as
failures, all modulo `2 ^ 64` and apart from lost ones: a panic that a get waits for, and what is
lost with a batch of the keeper's once the sink refuses to hear of a failed call. -/
theorem factory_ledger (id : Nat) (settings : Settings) (sink : Sink) (actions : List Action) :
    let start := ofSettings id settings sink
    let s := start.run actions
    let lost := (start.passages actions).flatMap Passage.lost
    (∀ j ∈ s.jobs.values, ∀ batch, j.stage ≠ .creating batch) →
      .ofNat (tally .created s.books.endings) =
        s.books.counters.created + .ofNat (tally .created lost) ∧
      .ofNat (tally .factoryFailures s.books.endings) =
        s.books.counters.factoryFailures + .ofNat (tally .factoryFailures lost) := by
  intro start s lost idle
  have initial : start.Orderly := orderly_ofSettings id settings sink
  have fresh : Audited [] start := ⟨by simp [JobsNumbered, start, ofSettings], fun _ kind => by
    rcases kind with rfl | rfl <;> rfl⟩
  have audited : Audited (start.passages actions) s :=
    initial.passages_keep (P := Audited) fresh
      (fun _ _ _ _ orderly transacts audited => audited.append orderly transacts)
      (fun _ _ _ untouched audited => audited.untouched untouched)
      (fun _ _ audited => audited.settle) actions
  have none : s.unsettled = [] := by
    refine List.flatMap_eq_nil_iff.mpr fun stage member => ?_
    obtain ⟨j, stored, rfl⟩ := List.mem_map.mp member
    cases standing : j.stage with
    | creating batch => exact False.elim (idle j stored batch standing)
    | _ => rfl
  have even := audited.even
  rw [none] at even
  exact ⟨(even .created (Or.inl rfl)).symm, (even .factoryFailures (Or.inr rfl)).symm⟩

/-- A get whose factory call panics leaves a failure uncounted, and a batch that is cut short by a
refused report leaves a creation uncounted. -/
theorem factory_ledger_unheard :
    let full : Sink := fun _ event => match event with
      | .creationFailed .. => some ⟨"full"⟩
      | _ => none
    let start := ofSettings 1 { tuning := { minSpare := 2 } } full
    let actions := [.get, .supply 0 (.panicked "boom"), .start .keeper, .signal 2 .run,
      .signal 2 .launch, .signal 2 .launch, .signal 2 (.deliver 1 .made),
      .signal 2 (.deliver 2 (.failed "down")), .signal 2 (.collect 2 (.failed "down"))]
    let s := start.run actions
    let lost := (start.passages actions).flatMap Passage.lost
    (.ofNat (tally .created s.books.endings) =
        s.books.counters.created + .ofNat (tally .created lost) ∧
      .ofNat (tally .factoryFailures s.books.endings) =
        s.books.counters.factoryFailures + .ofNat (tally .factoryFailures lost)) ∧
      s.books.counters.created = 0 ∧ s.books.counters.factoryFailures = 1 ∧
      lost = [(0, .panicked "boom"), (1, .made)] := by
  refine ⟨factory_ledger 1 _ _ _ ?_, by decide, by decide, by decide⟩
  have finished : ∀ j ∈ [(⟨.keeper, true, .ended none⟩ : Job)], ∀ batch,
      j.stage ≠ .creating batch := by simp
  exact finished

end ResourcePool.System
