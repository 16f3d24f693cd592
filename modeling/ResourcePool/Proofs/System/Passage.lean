import Mathlib.Data.List.Induction
import ResourcePool.Proofs.System.Run
import ResourcePool.Proofs.Upkeep.Counting

/-! The transactions of a run, one after another, and what they count. What every transaction
keeps and nothing else touches, a run keeps. -/
namespace ResourcePool

namespace Transaction

/-- Counters that a transaction may move. -/
def counters : Transaction → List Counter
  | .get | .tryGet => [.leased]
  | .clear => [.clears]
  | .dropped .. | .abandoned .. => [.returned, .discarded]
  | .detached .. => []
  | .checked _ _ verdict => verdict.counters
  | .supplied _ _ _ supply => supply.counters
  | .turned _ _ signal => signal.counters

/-- Factory calls that end in a transaction. -/
def ended : Transaction → List (Resource × Supply)
  | .supplied _ _ call supply => [(call, supply)]
  | .turned _ _ signal => signal.ended
  | _ => []

end Transaction

namespace System
variable {s next : System} {a : Action} {transaction : Transaction}

theorem books_tryGet (s : System) : (s.callPool .tryGet).books = s.books.tryAcquire.2 := by
  unfold callPool
  rcases s.books.tryAcquire with ⟨_ | lease, books⟩ <;> rfl

theorem Transacts.counts (transacts : s.Transacts a transaction next) :
    Books.Counts transaction.counters transaction.ended s.books next.books := by
  cases transacts with
  | get present =>
      rw [books_recordGet]
      exact .acquire _ (List.mem_singleton.mpr rfl)
  | tryGet =>
      rw [books_tryGet]
      exact .tryAcquire _ (List.mem_singleton.mpr rfl)
  | clear => exact .clear _ (List.mem_singleton.mpr rfl)
  | dropped found =>
      unfold dropLease
      split
      · exact .letGo _ _
      · exact .release _ _ (by simp [Transaction.counters]) (by simp [Transaction.counters])
  | detached found =>
      unfold detachLease
      split
      · exact .refl _
      · exact .forget _ _
  | abandoned found =>
      exact .release _ _ (by simp [Transaction.counters]) (by simp [Transaction.counters])
  | checked verdict found =>
      rw [books_recordGet]
      exact .acquireChecked _ _ verdict
  | supplied supply found =>
      rw [books_recordGet]
      exact .acquireSupplied _ _ _ supply
  | turned found answered => exact Job.turn_counts answered _

/-- A transaction of a run, with the states before and after it. -/
structure Passage where
  before : System
  transaction : Transaction
  after : System

/-- Nothing happens any more once the process is down. -/
def passage? (s : System) (a : Action) : Option Passage :=
  if s.books.terminated then none
  else (s.transaction? a).map fun transaction => ⟨s, transaction, s.perform a⟩

def passages (s : System) : List Action → List Passage
  | [] => []
  | a :: rest => (s.passage? a).toList ++ (s.step a).passages rest

theorem passages_concat (s : System) (actions : List Action) (a : Action) :
    s.passages (actions ++ [a]) = s.passages actions ++ ((s.run actions).passage? a).toList := by
  induction actions generalizing s with
  | nil => exact List.append_nil _
  | cons first rest ih =>
      have later := ih (s.step first)
      simp only [List.cons_append, passages, later, List.append_assoc]
      rfl

/-! ## Closing the books -/

theorem settle_open (reachable : s.settle.closed = false) : s.settle = s := by
  rcases s.settle_cases with same | ⟨_, _, books, settled, _⟩
  · exact same
  · rw [settled] at reachable
    contradiction

theorem settle_counts (s : System) : Books.Counts [] [] s.books s.settle.books := by
  unfold settle
  split
  · exact (Books.Counts.letGoAll s.books _).trans (.aside rfl rfl)
  · exact .refl s.books

theorem settle_aside (s : System) :
    s.settle.leases = s.leases ∧ s.settle.jobs = s.jobs ∧ s.settle.fresh = s.fresh := by
  unfold settle
  split <;> exact ⟨rfl, rfl, rfl⟩

/-! ## Runs -/

/-- What holds of the transactions so far and the state they led to, if every transaction adds
its own to it and it depends only on what incidental actions and closing the books leave alone. -/
theorem Orderly.passages_keep {P : List Passage → System → Prop} (orderly : s.Orderly)
    (start : P [] s)
    (transacts : ∀ done t a transaction, t.Orderly → t.Transacts a transaction (t.perform a) →
      P done t → P (done ++ [⟨t, transaction, t.perform a⟩]) (t.perform a))
    (untouched : ∀ done t next, t.Untouched next → P done t → P done next)
    (settle : ∀ done t, P done t → P done t.settle) (actions : List Action) :
    P (s.passages actions) (s.run actions) := by
  induction actions using List.reverseRecOn with
  | nil => exact start
  | append_singleton actions a ih =>
      rw [passages_concat, run_concat]
      have orderly := orderly.run actions
      generalize s.run actions = t at ih orderly
      unfold System.step passage?
      split
      · rw [Option.toList_none, List.append_nil]
        exact ih
      · refine settle _ _ ?_
        rcases perform_cases orderly a with ⟨transaction, same, transacted⟩ | ⟨none, incidental⟩
        · rw [same]
          exact transacts _ t a transaction orderly transacted ih
        · rw [none, Option.map_none, Option.toList_none, List.append_nil]
          exact untouched _ t _ incidental.untouched ih

end ResourcePool.System
