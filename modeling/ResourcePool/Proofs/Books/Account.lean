import ResourcePool.Proofs.Books.Counting

/-! Accounts of factory calls: what a counter shows, together with ended calls that are still to
be counted. -/
namespace ResourcePool

variable {b after : Books} {counter : Counter} {counted : List Counter}
variable {ended calls calls' : List (Resource × Supply)}

namespace Supply

/-- The counter that the end of a factory call belongs to. -/
def countedAs : Supply → Counter
  | .made => .created
  | .failed _ | .panicked _ => .factoryFailures

/-- The call that an acquisition leaves uncounted: one that panicked. -/
def uncounted (call : Resource) : Supply → List (Resource × Supply)
  | .panicked text => [(call, .panicked text)]
  | _ => []

end Supply

/-- What spares both counters of factory calls spares either of them. -/
theorem Counter.not_mem_of_calls (kind : counter = .created ∨ counter = .factoryFailures)
    (created : .created ∉ counted) (failures : .factoryFailures ∉ counted) : counter ∉ counted := by
  rcases kind with rfl | rfl
  · exact created
  · exact failures

/-- Ended calls that belong to a counter. -/
def tally (counter : Counter) (calls : List (Resource × Supply)) : Nat :=
  calls.countP (·.2.countedAs = counter)

theorem tally_append (calls calls' : List (Resource × Supply)) :
    tally counter (calls ++ calls') = tally counter calls + tally counter calls' :=
  List.countP_append

theorem tally_cons (call : Resource) (supply : Supply) (calls : List (Resource × Supply)) :
    tally counter ((call, supply) :: calls) =
      tally counter calls + if supply.countedAs = counter then 1 else 0 := by
  simp only [tally, List.countP_cons, decide_eq_true_eq]

/-- Calls of made resources, as they ended. -/
def settled (made : List Resource) : List (Resource × Supply) := made.map (·, .made)

theorem tally_settled (made : List Resource) :
    tally counter (settled made) = if .created = counter then made.length else 0 := by
  induction made with
  | nil => simp [tally, settled]
  | cons call rest ih =>
      have one : settled (call :: rest) = (call, .made) :: settled rest := rfl
      rw [one, tally_cons, ih]
      split <;> simp_all [Supply.countedAs]

namespace Books

/-- What a counter shows together with ended calls that are still to be counted. -/
def account (b : Books) (counter : Counter) (calls : List (Resource × Supply)) : UInt64 :=
  b.counters.get counter + .ofNat (tally counter calls)

theorem account_congr (b : Books) (same : tally counter calls = tally counter calls') :
    b.account counter calls = b.account counter calls' := by
  rw [account, same, account]

theorem account_append (b : Books) (calls calls' : List (Resource × Supply)) :
    b.account counter (calls ++ calls') =
      b.account counter calls + .ofNat (tally counter calls') := by
  rw [account, tally_append, UInt64.ofNat_add, account, UInt64.add_assoc]

/-- Calls that are there before and after make no difference. -/
theorem account_shift {early late : List (Resource × Supply)} (more : Nat)
    (same : after.account counter late = b.account counter early)
    (before : tally counter calls = tally counter early + more)
    (grown : tally counter calls' = tally counter late + more) :
    after.account counter calls' = b.account counter calls := by
  rw [account, account, before, grown]
  rw [account, account] at same
  rw [UInt64.ofNat_add, UInt64.ofNat_add]
  grind

theorem account_count (b : Books) (call : Resource) (supply : Supply)
    (calls : List (Resource × Supply)) :
    (b.count supply.countedAs 1).account counter calls =
      b.account counter ((call, supply) :: calls) := by
  have lifetime : supply.countedAs ≠ .unhealthy := by cases supply <;> simp [Supply.countedAs]
  rw [account, account, get_count lifetime, tally_cons]
  split
  · rw [UInt64.ofNat_add]
    grind
  · rfl

theorem Counts.account_eq (counts : Counts counted ended b after) (spared : counter ∉ counted)
    (calls : List (Resource × Supply)) : after.account counter calls = b.account counter calls := by
  rw [account, account, counts.others counter spared]

theorem account_endCall (counter : Counter) (b : Books) (call : Resource) (supply : Supply)
    (calls : List (Resource × Supply)) :
    (b.endCall call supply).account counter calls = b.account counter calls := by
  have noted : Counts [] [(call, supply)] b (b.endCall call supply) := .endCall b call supply
  exact noted.account_eq List.not_mem_nil calls

/-- An acquisition counts the end of its factory call, unless the call panicked. -/
theorem account_acquireSupplied (kind : counter = .created ∨ counter = .factoryFailures)
    (b : Books) (generation : Nat) (call : Resource) (supply : Supply) :
    (b.acquireSupplied generation call supply).2.account counter (supply.uncounted call) =
      b.account counter [(call, supply)] := by
  rw [← account_endCall counter b call supply]
  cases supply with
  | made =>
      have counts : Counts [.emergencyCreated, .leased] []
          ((b.endCall call .made).count .created 1)
          (b.acquireSupplied generation call .made).2 :=
        (((Counts.count _ 1 (by simp)).trans (.count _ 1 (by simp))).trans
          (.admitEmergency _ call generation))
      rw [← account_count]
      exact counts.account_eq (by rcases kind with rfl | rfl <;> simp) []
  | failed text => exact account_count _ call (.failed text) []
  | panicked text => rfl

end Books
end ResourcePool
