import ResourcePool.Proofs.System.Passage
import ResourcePool.Proofs.Upkeep.Counting

/-! The ledger of leases. Every lease that was counted is with a caller, was detached, or came
back and was counted again. Only a get that ends during the check of its lease, given up or by
a panic, has a return counted for a lease that was never handed out. -/
namespace ResourcePool

namespace Transaction

/-- Whether a get ends during the check of its lease. -/
def abandons : Transaction → Bool
  | .abandoned .. | .checked _ _ (.panicked _) => true
  | _ => false

def detaches : Transaction → Bool
  | .detached .. => true
  | _ => false

end Transaction

namespace System
variable {s t next : System} {a : Action} {done : List Passage} {transaction : Transaction}

/-- An acquisition on record adds the lease that it hands out to those of callers. -/
theorem leases_recordGet (distinct : s.leases.keys.Nodup)
    (fresh : s.leases.get? s.fresh = none) (c : CallId) (acquisition : Acquisition) :
    (s.recordGet c acquisition).leases.keys.Nodup ∧
      (s.recordGet c acquisition).leases.size = s.leases.size + acquisition.handed := by
  cases acquisition with
  | leased lease =>
      exact ⟨Table.nodup_keys_set distinct s.fresh lease, Table.size_set_of_absent fresh lease⟩
  | _ => exact ⟨distinct, rfl⟩

/-- Leases that were counted, against those that are out, were detached or came back. -/
structure Balanced (done : List Passage) (s : System) : Prop where
  distinct : s.leases.keys.Nodup
  even : s.closed = false →
    s.books.counters.leased + .ofNat (done.countP (·.transaction.abandons)) =
      .ofNat (s.leases.size + done.countP (·.transaction.detaches)) +
        (s.books.counters.returned + s.books.counters.discarded)

/-- What a transaction adds on one side it adds on the other. -/
structure Balances (s : System) (transaction : Transaction) (next : System) : Prop where
  distinct : next.leases.keys.Nodup
  closed : next.closed = s.closed
  even : s.closed = false → ∃ given ended back : Nat,
    next.books.counters.leased = s.books.counters.leased + .ofNat given ∧
    next.leases.size + ended = s.leases.size + given ∧
    next.books.counters.returned + next.books.counters.discarded =
      s.books.counters.returned + s.books.counters.discarded + .ofNat back ∧
    transaction.abandons.toNat + ended = transaction.detaches.toNat + back

theorem Balanced.append (balanced : Balanced done s) (balances : Balances s transaction next) :
    Balanced (done ++ [⟨s, transaction, next⟩]) next := by
  refine ⟨balances.distinct, fun reachable => ?_⟩
  have reachable := balances.closed ▸ reachable
  obtain ⟨given, ended, back, leased, size, handedBack, even⟩ := balances.even reachable
  have one (kind : Transaction → Bool) :
      List.countP (kind ·.transaction) (done ++ [⟨s, transaction, next⟩]) =
        List.countP (kind ·.transaction) done + (kind transaction).toNat := by
    rw [List.countP_append, List.countP_singleton]
    cases kind transaction <;> rfl
  have sizes : next.leases.size + transaction.detaches.toNat + back =
      s.leases.size + given + transaction.abandons.toNat := by omega
  have sums := congrArg UInt64.ofNat sizes
  rw [leased, handedBack, one, one]
  simp only [UInt64.ofNat_add] at sums ⊢
  have before := balanced.even reachable
  rw [UInt64.ofNat_add] at before
  grind

section
variable {books : Books} {counted : List Counter} {ended : List (Resource × Supply)}

/-- Returns do not count where neither of their counters moves. -/
theorem handedBack_eq (counts : Books.Counts counted ended s.books books)
    (returned : .returned ∉ counted) (discarded : .discarded ∉ counted) :
    books.counters.returned + books.counters.discarded =
      s.books.counters.returned + s.books.counters.discarded + .ofNat 0 := by
  have same : books.counters.returned = s.books.counters.returned := counts.others _ returned
  have same' : books.counters.discarded = s.books.counters.discarded := counts.others _ discarded
  rw [same, same']
  exact (UInt64.add_zero _).symm

/-- An acquisition on record hands out the lease that it counts. -/
theorem Balances.recorded {fresh : Nat} {c : CallId} {acquisition : Acquisition}
    (balanced : Balanced done s) (orderly : s.Orderly) (grows : s.fresh ≤ fresh)
    (leased : books.counters.leased = s.books.counters.leased + .ofNat acquisition.handed)
    (counts : Books.Counts counted ended s.books books) (returned : .returned ∉ counted)
    (discarded : .discarded ∉ counted) (even : transaction.abandons = transaction.detaches) :
    Balances s transaction (({ s with books, fresh } : System).recordGet c acquisition) := by
  obtain ⟨distinct, size⟩ := leases_recordGet (s := { s with books, fresh }) balanced.distinct
    (orderly.freshLease grows) c acquisition
  refine ⟨distinct, closed_recordGet .., fun _ =>
    ⟨acquisition.handed, 0, 0, ?_, size, ?_, by rw [even]⟩⟩ <;> rw [books_recordGet]
  · exact leased
  · exact handedBack_eq counts returned discarded

/-- Nobody gets a lease, and none of those out ends. -/
theorem Balances.aside {back : Nat} (balanced : Balanced done s) (closed : next.closed = s.closed)
    (leases : next.leases = s.leases)
    (leased : next.books.counters.leased = s.books.counters.leased)
    (handedBack : next.books.counters.returned + next.books.counters.discarded =
      s.books.counters.returned + s.books.counters.discarded + .ofNat back)
    (even : transaction.abandons.toNat = transaction.detaches.toNat + back) :
    Balances s transaction next := by
  refine ⟨leases ▸ balanced.distinct, closed, fun _ => ⟨0, 0, back, ?_, ?_, handedBack, even⟩⟩
  · exact leased.trans (UInt64.add_zero _).symm
  · rw [leases]

end

theorem Balances.tryGet (balanced : Balanced done s) (orderly : s.Orderly) :
    Balances s .tryGet (s.callPool .tryGet) := by
  have counts : Books.Counts [.leased] [] s.books s.books.tryAcquire.2 := .tryAcquire _ (by simp)
  have leased := s.books.leased_tryAcquire
  have handedBack := handedBack_eq counts (by simp) (by simp)
  unfold callPool
  rcases taken : s.books.tryAcquire with ⟨_ | lease, books⟩ <;>
    rw [taken] at leased handedBack
  · exact .aside balanced rfl rfl (leased.trans (UInt64.add_zero _)) handedBack rfl
  · have fresh : s.leases.get? s.fresh = none := orderly.freshLease (Nat.le_refl _)
    exact ⟨Table.nodup_keys_set balanced.distinct s.fresh lease, rfl, fun _ =>
      ⟨1, 0, 0, leased, Table.size_set_of_absent fresh lease, handedBack, rfl⟩⟩

theorem Balances.dropped {id : LeaseId} {l : Lease} (balanced : Balanced done s)
    (found : s.leases.get? id = some l) : Balances s (.dropped id l) (s.dropLease id l) := by
  refine ⟨Table.nodup_keys_erase balanced.distinct id, rfl, fun reachable => ?_⟩
  have books : (s.dropLease id l).books = s.books.release l := by simp [dropLease, reachable]
  have counts : Books.Counts [.returned, .discarded] [] s.books (s.books.release l) :=
    .release _ l (by simp) (by simp)
  rw [books]
  exact ⟨0, 1, 1, (counts.others .leased (by simp)).trans (UInt64.add_zero _).symm,
    Table.size_erase balanced.distinct found, s.books.handedBack_release l, rfl⟩

theorem Balances.detached {id : LeaseId} {l : Lease} (balanced : Balanced done s)
    (found : s.leases.get? id = some l) : Balances s (.detached id l) (s.detachLease id l) := by
  refine ⟨Table.nodup_keys_erase balanced.distinct id, rfl, fun reachable => ?_⟩
  have books : (s.detachLease id l).books = s.books.forget l := by
    simp [detachLease, addHandle, newId, reachable]
  have counts : Books.Counts [] [] s.books (s.books.forget l) := .forget _ l
  rw [books]
  exact ⟨0, 1, 0, (counts.others .leased (by simp)).trans (UInt64.add_zero _).symm,
    Table.size_erase balanced.distinct found, handedBack_eq counts (by simp) (by simp), rfl⟩

/-- The end of a check either hands the lease out or takes it back. -/
theorem Balances.checked {c : CallId} {l : Lease} (balanced : Balanced done s)
    (orderly : s.Orderly) (verdict : Verdict) :
    Balances s (.checked c l verdict)
      (({ s with books := (s.books.acquireChecked l verdict).2 } : System).recordGet c
        (s.books.acquireChecked l verdict).1) := by
  have counts := Books.Counts.acquireChecked s.books l verdict
  have leased := s.books.leased_acquireChecked l verdict
  cases verdict with
  | sound | broken | failed =>
      exact .recorded balanced orderly (Nat.le_refl _) leased counts (by simp [Verdict.counters])
        (by simp [Verdict.counters]) rfl
  | panicked text =>
      exact .aside balanced rfl rfl (leased.trans (UInt64.add_zero _))
        (s.books.handedBack_release l) rfl

theorem Transacts.balances (orderly : s.Orderly) (balanced : Balanced done s)
    (transacts : s.Transacts a transaction next) : Balances s transaction next := by
  have still {next : System} {counted : List Counter} {ended : List (Resource × Supply)}
      (closed : next.closed = s.closed) (leases : next.leases = s.leases)
      (counts : Books.Counts counted ended s.books next.books)
      (others : ∀ counter ∈ [.leased, .returned, .discarded], counter ∉ counted)
      (even : transaction.abandons.toNat = transaction.detaches.toNat) :
      Balances s transaction next :=
    .aside balanced closed leases (counts.others .leased (others _ (by simp)))
      (handedBack_eq counts (others _ (by simp)) (others _ (by simp))) even
  cases transacts with
  | get present =>
      exact .recorded balanced orderly (Nat.le_succ _) s.books.leased_acquire
        (.acquire _ (List.mem_singleton.mpr rfl)) (by simp) (by simp) rfl
  | tryGet => exact .tryGet balanced orderly
  | clear => exact still rfl rfl (.clear _ (List.mem_singleton.mpr rfl)) (by simp) rfl
  | dropped found => exact .dropped balanced found
  | detached found => exact .detached balanced found
  | @abandoned c l found =>
      have counts : Books.Counts [.returned, .discarded] [] s.books (s.books.release l) :=
        .release _ l (by simp) (by simp)
      exact .aside balanced rfl rfl (counts.others .leased (by simp))
        (s.books.handedBack_release l) rfl
  | checked verdict found => exact .checked balanced orderly verdict
  | supplied supply found =>
      refine .recorded balanced orderly (Nat.le_refl _) (s.books.leased_acquireSupplied _ _ _)
        (.acquireSupplied _ _ _ _) ?_ ?_ rfl <;> cases supply <;> simp [Supply.counters]
  | @turned job j signal work found answered =>
      refine still rfl rfl (Job.turn_counts answered job) ?_ rfl
      cases signal <;> simp [Signal.counters]

theorem balanced_ofSettings (id : Nat) (settings : Settings) (sink : Sink) :
    Balanced [] (ofSettings id settings sink) := ⟨.nil, fun _ => rfl⟩

namespace Balanced

theorem untouched (balanced : Balanced done s) (untouched : s.Untouched next) :
    Balanced done next := by
  have leased : next.books.counters.leased = s.books.counters.leased :=
    untouched.counts.others .leased (by simp)
  have handedBack := handedBack_eq untouched.counts (by simp) (by simp)
  refine ⟨untouched.leases ▸ balanced.distinct, fun reachable => ?_⟩
  have before := balanced.even (untouched.closed ▸ reachable)
  rw [leased, handedBack, untouched.leases, before]
  exact congrArg _ (UInt64.add_zero _).symm

theorem settle (balanced : Balanced done s) : Balanced done s.settle := by
  refine ⟨s.settle_aside.1 ▸ balanced.distinct, fun reachable => ?_⟩
  have same := settle_open reachable
  rw [same] at reachable ⊢
  exact balanced.even reachable

end Balanced

/-- In every run, while the pool can be reached, the leases counted are those that callers have,
those detached and those that came back, recycled or discarded, all modulo `2 ^ 64`. The one
exception are gets that end during the check of their lease: each of these has a return counted
for a lease that was not. -/
theorem lease_ledger (id : Nat) (settings : Settings) (sink : Sink) (actions : List Action) :
    let start := ofSettings id settings sink
    let s := start.run actions
    let abandoned := (start.passages actions).countP (·.transaction.abandons)
    let detached := (start.passages actions).countP (·.transaction.detaches)
    s.closed = false → s.books.counters.leased + .ofNat abandoned =
      .ofNat (s.leases.size + detached) +
        (s.books.counters.returned + s.books.counters.discarded) := by
  intro start s abandoned detached
  have initial : start.Orderly := orderly_ofSettings id settings sink
  have balanced : Balanced (start.passages actions) s :=
    initial.passages_keep (P := Balanced) (balanced_ofSettings id settings sink)
      (fun _ _ _ _ orderly transacts balanced =>
        balanced.append (transacts.balances orderly balanced))
      (fun _ _ _ untouched balanced => balanced.untouched untouched)
      (fun _ _ balanced => balanced.settle) actions
  exact balanced.even

/-- A get that is given up during the check of its lease leaves more returns than leases on
record. -/
theorem lease_ledger_abandoned :
    let start := ofSettings 1 { hasCheck := true, checkOnAccess := true } .accepting
    let actions := [.get, .supply 0 .made, .dropLease 1, .get, .cancel 2]
    let s := start.run actions
    let abandoned := (start.passages actions).countP (·.transaction.abandons)
    let detached := (start.passages actions).countP (·.transaction.detaches)
    s.books.counters.leased + .ofNat abandoned =
        .ofNat (s.leases.size + detached) +
          (s.books.counters.returned + s.books.counters.discarded) ∧
      abandoned = 1 ∧ s.books.counters.leased = 1 ∧ s.books.counters.returned = 2 :=
  ⟨lease_ledger 1 { hasCheck := true, checkOnAccess := true } .accepting
    [.get, .supply 0 .made, .dropLease 1, .get, .cancel 2] (by decide),
    by decide, by decide, by decide⟩

end System
end ResourcePool
