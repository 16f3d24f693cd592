import ResourcePool.Proofs.System.Eviction
import ResourcePool.Proofs.System.Passage
import ResourcePool.Proofs.Upkeep.Counting

/-! Evictions and their count in a run. A slot that leaves the store for a failed check, of a
get or of a health cycle, is counted once; but a get also counts a failed check of a lease whose
slot had left the store before. -/
namespace ResourcePool

/-- The slot of a check that has come out against its resource. -/
def Transaction.condemned? : Transaction → Option SlotId
  | .checked _ lease verdict => if verdict.condemns then lease.slot else none
  | .turned _ ⟨_, _, .checking round⟩ (.judge verdict) =>
      if verdict.condemns then some round.slot else none
  | _ => none

namespace System
open Books (Changes CountsLoss)
variable {s t next : System} {a : Action} {done : List Passage} {transaction : Transaction}
variable {slot : SlotId}

namespace Passage

/-- The slot that left the store because its check had failed. -/
def evicted (passage : Passage) : List SlotId :=
  passage.transaction.condemned?.toList.filter (passage.before.books.loses passage.after.books)

/-- Whether a get finds against a lease that has no slot in the store any more. -/
def strays (passage : Passage) : Bool :=
  match passage.transaction with
  | .checked _ lease verdict =>
      verdict.condemns && (lease.slot.bind passage.before.books.store.slots.get?).isNone
  | _ => false

end Passage

/-- What a transaction adds to the evicted, and to their count. -/
def CountsEvictions (passage : Passage) : Prop :=
  passage.after.books.counters.evicted = passage.before.books.counters.evicted +
    .ofNat (passage.evicted.length + passage.strays.toNat)

theorem CountsEvictions.spared {counted : List Counter} {ended : List (Resource × Supply)}
    (spared : transaction.condemned? = none) (kept : Passage.strays ⟨s, transaction, next⟩ = false)
    (counts : Books.Counts counted ended s.books next.books) (other : .evicted ∉ counted) :
    CountsEvictions ⟨s, transaction, next⟩ := by
  have evicted : next.books.counters.evicted = s.books.counters.evicted := counts.others _ other
  simp only [CountsEvictions, Passage.evicted, spared, kept, evicted]
  exact (UInt64.add_zero _).symm

/-- A get that finds against its lease takes the slot off the books, if it is still there, and
counts an eviction whether it was or not. -/
theorem CountsEvictions.checked {c : CallId} {l : Lease} (orderly : s.Orderly)
    (verdict : Verdict) :
    CountsEvictions ⟨s, .checked c l verdict,
      ({ s with books := (s.books.acquireChecked l verdict).2 } : System).recordGet c
        (s.books.acquireChecked l verdict).1⟩ := by
  have recorded := books_recordGet
    { s with books := (s.books.acquireChecked l verdict).2 } c (s.books.acquireChecked l verdict).1
  generalize System.recordGet _ c _ = next at recorded ⊢
  cases condemned : verdict.condemns with
  | false =>
      have counts : Books.Counts verdict.counters [] s.books next.books :=
        recorded ▸ Books.Counts.acquireChecked s.books l verdict
      refine .spared ?_ ?_ counts ?_
      · simp [Transaction.condemned?, condemned]
      · simp [Passage.strays, condemned]
      · cases verdict <;> simp_all [Verdict.counters, Verdict.condemns]
  | true =>
      have retried : next.books = (s.books.erase l).acquire.2 := by
        cases verdict <;> first | exact recorded | contradiction
      have acquired : Changes (fun _ => True) (s.books.erase l) next.books :=
        retried ▸ .acquire _ trivial trivial
      have counts : Books.Counts [.leased] [] (s.books.erase l) next.books :=
        retried ▸ .acquire _ (by simp)
      have one : next.books.counters.evicted = s.books.counters.evicted + 1 :=
        (counts.others .evicted (by simp)).trans (s.books.evicted_erase l)
      have alone : (Passage.evicted ⟨s, .checked c l verdict, next⟩).length +
          (Passage.strays ⟨s, .checked c l verdict, next⟩).toNat = 1 := by
        simp only [Passage.evicted, Transaction.condemned?, Passage.strays, condemned, if_true,
          Bool.true_and]
        cases pooled : l.slot with
        | none => rfl
        | some slot =>
            cases found : s.books.store.slots.get? slot with
            | none => simp [Books.loses, found]
            | some entry =>
                have sound := orderly.custody.sound
                have gone := acquired.lacks
                  (Books.erase_lacks sound (sound.opened slot entry found) pooled)
                simp [Books.loses, found, gone.absent]
      rw [CountsEvictions, alone]
      exact one

/-- A turn counts an eviction if the slot of a failed check was there and is gone. -/
theorem CountsEvictions.turned {job : JobId} {j : Job} {signal : Signal} {work : Work Stage}
    (answered : j.respond s.books signal = some work)
    (books : next.books = (j.turn job work s.books).2) :
    CountsEvictions ⟨s, .turned job j signal, next⟩ := by
  have counts : Books.Counts signal.counters signal.ended s.books next.books :=
    books ▸ Job.turn_counts answered job
  cases Job.responds answered with
  | @judge round verdict standing =>
      obtain ⟨kind, enabled, stage⟩ := j
      cases (show stage = .checking round from standing)
      cases condemned : verdict.condemns with
      | false =>
          refine .spared ?_ rfl counts ?_
          · simp [Transaction.condemned?, condemned]
          · simp [Signal.counters, condemned]
      | true =>
          have counted := Job.turn_countsLoss ⟨kind, enabled, .checking round⟩ job round
            condemned s.books
          rw [← books] at counted
          simp only [CountsEvictions, Passage.evicted, Transaction.condemned?, condemned, if_true,
            Option.toList_some, Passage.strays]
          cases lost : s.books.loses next.books round.slot <;>
            simpa [Books.CountsLoss, lost] using counted
  | _ => exact .spared (by simp [Transaction.condemned?]) rfl counts (by simp [Signal.counters])

theorem Transacts.countsEvictions (orderly : s.Orderly)
    (transacts : s.Transacts a transaction next) :
    CountsEvictions ⟨s, transaction, next⟩ := by
  have counts := transacts.counts
  cases transacts with
  | checked verdict found => exact .checked orderly verdict
  | turned found answered => exact .turned answered rfl
  | supplied supply found =>
      refine .spared rfl rfl counts ?_
      cases supply <;> simp [Transaction.counters, Supply.counters]
  | _ => exact .spared rfl rfl counts (by simp [Transaction.counters])

/-- A slot that left the store does not come back. -/
theorem lacks_of_loses {allowed : Books.Deed → Prop} {before after : Books}
    (changes : Changes allowed before after) (sound : before.store.Sound)
    (lost : before.loses after slot = true) : after.Lacks slot := by
  obtain ⟨there, gone⟩ := Bool.and_eq_true_iff.mp lost
  obtain ⟨entry, found⟩ := Option.isSome_iff_exists.mp there
  obtain ⟨history, _, store⟩ := changes.history
  refine ⟨changes.sound sound, ?_, Option.isNone_iff_eq_none.mp gone⟩
  exact store ▸ Nat.lt_of_lt_of_le (sound.opened slot entry found)
    (sound.nextId_le_after history)

/-- Evictions so far: of distinct slots, which are gone, and all counted. -/
structure Evictions (done : List Passage) (s : System) : Prop where
  distinct : (done.flatMap Passage.evicted).Nodup
  gone : ∀ slot ∈ done.flatMap Passage.evicted, s.books.Lacks slot
  count : s.books.counters.evicted =
    .ofNat ((done.flatMap Passage.evicted).length + done.countP Passage.strays)

namespace Evictions

theorem append (evictions : Evictions done s) (orderly : s.Orderly)
    (transacts : s.Transacts a transaction next) :
    Evictions (done ++ [⟨s, transaction, next⟩]) next := by
  have changes := (transacts.effect orderly).changes
  have counts := transacts.countsEvictions orderly
  have lost : ∀ slot ∈ Passage.evicted ⟨s, transaction, next⟩,
      s.books.loses next.books slot = true :=
    fun slot member => (List.mem_filter.mp member).2
  have single : (Passage.evicted ⟨s, transaction, next⟩).Nodup := by
    refine List.Nodup.filter _ ?_
    cases transaction.condemned? <;> simp
  refine ⟨?_, ?_, ?_⟩
  · rw [List.flatMap_append, List.flatMap_singleton]
    refine List.nodup_append'.mpr ⟨evictions.distinct, single, fun slot earlier now => ?_⟩
    -- A slot evicted before is not in the store, so it cannot leave it.
    have absent := (evictions.gone slot earlier).absent
    have leaves := lost slot now
    simp [Books.loses, absent] at leaves
  · intro slot member
    rw [List.flatMap_append, List.flatMap_singleton] at member
    rcases List.mem_append.mp member with earlier | now
    · exact changes.lacks (evictions.gone slot earlier)
    · exact lacks_of_loses changes orderly.custody.sound (lost slot now)
  · have stray : List.countP Passage.strays [⟨s, transaction, next⟩] =
        (Passage.strays ⟨s, transaction, next⟩).toNat := by
      rw [List.countP_singleton]
      cases Passage.strays ⟨s, transaction, next⟩ <;> rfl
    simp only [CountsEvictions] at counts
    rw [counts, evictions.count, List.flatMap_append, List.flatMap_singleton, List.length_append,
      List.countP_append, stray, ← UInt64.ofNat_add]
    congr 1
    omega

theorem untouched (evictions : Evictions done s) (untouched : s.Untouched next) :
    Evictions done next := by
  refine ⟨evictions.distinct, fun slot member => ?_, ?_⟩
  · obtain ⟨sound, opened, absent⟩ := evictions.gone slot member
    exact ⟨untouched.store ▸ sound, untouched.store ▸ opened, untouched.store ▸ absent⟩
  · exact (untouched.counts.others .evicted (by simp)).trans evictions.count

theorem settle (evictions : Evictions done s) : Evictions done s.settle where
  distinct := evictions.distinct
  gone := fun slot member => lacks_settle (evictions.gone slot member)
  count := (s.settle_counts.others .evicted (by simp)).trans evictions.count

end Evictions

/-- In every run the evicted are counted modulo `2 ^ 64`: each slot once that left the store for a
failed check, of a get or of a health cycle, and besides each failed check of a get whose lease
had no slot in the store any more. -/
theorem eviction_count (id : Nat) (settings : Settings) (sink : Sink) (actions : List Action) :
    let start := ofSettings id settings sink
    let passages := start.passages actions
    (passages.flatMap Passage.evicted).Nodup ∧
      (start.run actions).books.counters.evicted =
        .ofNat ((passages.flatMap Passage.evicted).length + passages.countP Passage.strays) := by
  intro start passages
  have initial : start.Orderly := orderly_ofSettings id settings sink
  have evictions : Evictions passages (start.run actions) :=
    initial.passages_keep (P := Evictions) ⟨.nil, by simp, rfl⟩
      (fun _ _ _ _ orderly transacts evictions => evictions.append orderly transacts)
      (fun _ _ _ untouched evictions => evictions.untouched untouched)
      (fun _ _ evictions => evictions.settle) actions
  exact ⟨evictions.distinct, evictions.count⟩

/-- A get whose lease was cleared during its check counts an eviction, though nothing is evicted. -/
theorem eviction_count_cleared :
    let start := ofSettings 1 { hasCheck := true, checkOnAccess := true } .accepting
    let actions := [.get, .supply 0 .made, .dropLease 1, .get, .clear, .answer 2 .broken]
    let passages := start.passages actions
    (start.run actions).books.counters.evicted =
        .ofNat ((passages.flatMap Passage.evicted).length + passages.countP Passage.strays) ∧
      passages.flatMap Passage.evicted = [] ∧ passages.countP Passage.strays = 1 :=
  ⟨(eviction_count 1 { hasCheck := true, checkOnAccess := true } .accepting
    [.get, .supply 0 .made, .dropLease 1, .get, .clear, .answer 2 .broken]).2,
    by decide, by decide⟩

end System
end ResourcePool
