import ResourcePool.Proofs.Books.Acquire

/-! What is counted, and which factory calls end. Each operation moves a few counters of its own;
for those of an acquisition the amounts are given. -/
namespace ResourcePool

/-- The factory call whose end a report tells of. -/
def Report.ending? : Report → Option (Resource × Supply)
  | .factoryEnded call supply => some (call, supply)
  | _ => none

/-- Leases that an acquisition hands out. -/
def Acquisition.handed : Acquisition → Nat
  | .leased _ => 1
  | _ => 0

/-- Counters that an acquisition may move once the check of its lease ended. -/
def Verdict.counters : Verdict → List Counter
  | .sound => [.leased]
  | .broken | .failed _ => [.evicted, .leased]
  | .panicked _ => [.returned, .discarded]

/-- Counters that an acquisition may move once its factory call ended. -/
def Supply.counters : Supply → List Counter
  | .made => [.created, .emergencyCreated, .leased]
  | .failed _ => [.factoryFailures]
  | .panicked _ => []

theorem Counters.get_record {counter : Counter} (lifetime : counter ≠ .unhealthy)
    (cs : Counters) (amount : Nat) (other : Counter) :
    (cs.record counter amount).get other =
      if counter = other then cs.get other + .ofNat amount else cs.get other := by
  rw [record, if_neg lifetime, get_set]
  split
  · rename_i same
    rw [same]
  · rfl

namespace Books
variable {b before middle after : Books} {counted : List Counter} {ended : List (Resource × Supply)}

/-- Factory calls on record as ended, the latest first. -/
def endings (b : Books) : List (Resource × Supply) := b.journal.filterMap (·.report.ending?)

/-- Changes that move only some counters, while some factory calls end. -/
structure Counts (counted : List Counter) (ended : List (Resource × Supply))
    (before after : Books) : Prop where
  others : ∀ counter, counter ∉ counted → after.counters.get counter = before.counters.get counter
  endings : after.endings = ended ++ before.endings

namespace Counts

theorem aside (counters : after.counters = before.counters)
    (journal : after.journal = before.journal) : Counts counted [] before after where
  others := fun counter _ => by rw [counters]
  endings := by simp only [Books.endings, journal, List.nil_append]

theorem refl (b : Books) : Counts counted [] b b := aside rfl rfl

theorem trans (first : Counts counted ended before middle)
    (second : Counts counted [] middle after) : Counts counted ended before after where
  others := fun counter spared => (second.others counter spared).trans (first.others counter spared)
  endings := second.endings.trans first.endings

theorem mono {more : List Counter} (counts : Counts counted ended before after)
    (subset : counted ⊆ more) : Counts more ended before after where
  others := fun counter spared => counts.others counter fun member => spared (subset member)
  endings := counts.endings

theorem note (b : Books) {report : Report} (other : report.ending? = none) :
    Counts counted [] b (b.note report) where
  others := fun _ _ => rfl
  endings := List.filterMap_cons_none other

theorem tell (b : Books) (event : Event) : Counts counted [] b (b.tell event) := note b rfl

theorem count (b : Books) {counter : Counter} (amount : Nat) (own : counter ∈ counted) :
    Counts counted [] b (b.count counter amount) where
  others := by
    intro other spared
    have different : counter ≠ other := fun same => spared (same ▸ own)
    simp only [Books.count, Counters.record]
    split <;> rw [Counters.get_set, if_neg different]
  endings := rfl

theorem take (b : Books) (resource : Resource) : Counts counted [] b (b.take resource) :=
  aside rfl rfl

theorem letGo (b : Books) (resource : Resource) : Counts counted [] b (b.letGo resource) :=
  aside rfl rfl

theorem takeAll (b : Books) (resources : List Resource) :
    Counts counted [] b (b.takeAll resources) := by
  induction resources generalizing b with
  | nil => exact refl b
  | cons resource rest ih => exact (take b resource).trans (ih (b.take resource))

theorem letGoAll (b : Books) (resources : List Resource) :
    Counts counted [] b (b.letGoAll resources) := by
  induction resources generalizing b with
  | nil => exact refl b
  | cons resource rest ih => exact (letGo b resource).trans (ih (b.letGo resource))

theorem clear (b : Books) (own : .clears ∈ counted) : Counts counted [] b b.clear := by
  have emptied : Counts counted [] b { b with store := b.store.clear.2 } := aside rfl rfl
  exact ((emptied.trans (count _ 1 own)).trans (tell _ _)).trans (letGoAll _ _)

theorem remove (b : Books) (slot : SlotId) : Counts counted [] b (b.remove slot).2 := by
  unfold Books.remove
  rcases b.store.remove slot with ⟨_ | resource, store⟩
  · exact refl b
  · exact aside rfl rfl

theorem forget (b : Books) (lease : Lease) : Counts counted [] b (b.forget lease) := by
  unfold Books.forget
  split
  · exact remove b _
  · exact refl b

theorem claim (b : Books) : Counts counted [] b b.claim.2 := by
  unfold Books.claim
  rcases b.store.claim with ⟨_ | claim, store⟩ <;> exact aside rfl rfl

theorem callFactory (b : Books) : Counts counted [] b b.callFactory.2 := by
  have begun : Counts counted [] b { b with calls := b.calls + 1 } := aside rfl rfl
  exact begun.trans (note _ rfl)

theorem endCall (b : Books) (call : Resource) (supply : Supply) :
    Counts counted [(call, supply)] b (b.endCall call supply) := by
  have noted : Counts counted [(call, supply)] b (b.note (.factoryEnded call supply)) :=
    ⟨fun _ _ => rfl, rfl⟩
  cases supply with
  | made => exact noted.trans (take _ _)
  | failed | panicked => exact noted

theorem inspectNext (b : Books) (i : Inspection) (own : .unhealthy ∈ counted) :
    Counts counted [] b (b.inspectNext i).2 := by
  unfold Books.inspectNext
  split
  · exact refl b
  · exact (letGoAll b _).trans (count _ _ own)

theorem inspect (b : Books) (order : List Resource) (own : .unhealthy ∈ counted) :
    Counts counted [] b (b.inspect order).2 :=
  (takeAll b _).trans (inspectNext _ _ own)

theorem inspectChecked (b : Books) (i : Inspection) (verdict : Verdict)
    (own : .unhealthy ∈ counted) : Counts counted [] b (b.inspectChecked i verdict).2 := by
  cases verdict with
  | sound | broken | failed => exact inspectNext b _ own
  | panicked => exact letGoAll b _

end Counts

/-! ## Amounts -/

theorem get_count {counter : Counter} (lifetime : counter ≠ .unhealthy) (b : Books)
    (amount : Nat) (other : Counter) :
    (b.count counter amount).counters.get other =
      if counter = other then b.counters.get other + .ofNat amount else b.counters.get other :=
  Counters.get_record lifetime b.counters amount other

/-- A lease that is handed back counts once, as returned or as discarded. -/
theorem release_cases (b : Books) (lease : Lease) : ∃ store : Store Resource,
    b.release lease = (({ b with store } : Books).count .returned 1).letGo lease.resource ∨
    b.release lease = ((({ b with store } : Books).count .discarded 1).tell
      (.returnDiscarded lease.slot)).letGo lease.resource := by
  unfold release
  cases lease.slot with
  | none => exact ⟨b.store, Or.inr rfl⟩
  | some slot =>
      simp only
      rcases b.store.release slot lease.generation with ⟨_ | _, store⟩
      · exact ⟨store, Or.inl rfl⟩
      · exact ⟨store, Or.inr rfl⟩

theorem release_recycled {slot : SlotId} {store : Store Resource} {lease : Lease}
    (pooled : lease.slot = some slot)
    (recycled : b.store.release slot lease.generation = (.recycled, store)) :
    b.release lease = (({ b with store } : Books).count .returned 1).letGo lease.resource := by
  simp only [release, pooled, recycled]

theorem release_discarded {slot : SlotId} {store : Store Resource} {lease : Lease}
    (pooled : lease.slot = some slot)
    (discarded : b.store.release slot lease.generation = (.discarded, store)) :
    b.release lease = ((({ b with store } : Books).count .discarded 1).tell
      (.returnDiscarded (some slot))).letGo lease.resource := by
  simp only [release, pooled, discarded]

theorem Counts.release (b : Books) (lease : Lease) (returned : .returned ∈ counted)
    (discarded : .discarded ∈ counted) : Counts counted [] b (b.release lease) := by
  obtain ⟨store, cases⟩ := b.release_cases lease
  have stored : Counts counted [] b { b with store } := aside rfl rfl
  rcases cases with recycled | dropped
  · rw [recycled]
    exact (stored.trans (count _ 1 returned)).trans (letGo _ _)
  · rw [dropped]
    exact ((stored.trans (count _ 1 discarded)).trans (tell _ _)).trans (letGo _ _)

theorem handedBack_release (b : Books) (lease : Lease) :
    (b.release lease).counters.returned + (b.release lease).counters.discarded =
      b.counters.returned + b.counters.discarded + 1 := by
  have one (n m : UInt64) : n + 1 + m = n + m + 1 ∧ n + (m + 1) = n + m + 1 := by grind
  obtain ⟨store, recycled | dropped⟩ := b.release_cases lease
  · rw [recycled]
    exact (one _ _).1
  · rw [dropped]
    exact (one _ _).2

theorem Counts.acquire (b : Books) (own : .leased ∈ counted) :
    Counts counted [] b b.acquire.2 := by
  have claimed : Counts counted [] b b.claim.2 := claim b
  unfold Books.acquire
  rcases taken : b.claim with ⟨_ | lease, next⟩ <;> rw [taken] at claimed
  · exact (claimed.trans (tell _ _)).trans (callFactory _)
  · simp only
    split
    · exact claimed
    · exact claimed.trans (count _ 1 own)

theorem leased_acquire (b : Books) :
    b.acquire.2.counters.leased = b.counters.leased + .ofNat b.acquire.1.handed := by
  have claimed : Counts [] [] b b.claim.2 := .claim b
  have leased : b.claim.2.counters.leased = b.counters.leased := claimed.others .leased (by simp)
  unfold acquire
  rcases taken : b.claim with ⟨_ | lease, next⟩ <;> rw [taken] at leased
  · exact leased.trans (UInt64.add_zero _).symm
  · simp only
    split
    · exact leased.trans (UInt64.add_zero _).symm
    · exact congrArg (· + 1) leased

theorem Counts.tryAcquire (b : Books) (own : .leased ∈ counted) :
    Counts counted [] b b.tryAcquire.2 := by
  have claimed : Counts counted [] b b.claim.2 := claim b
  unfold Books.tryAcquire
  rcases taken : b.claim with ⟨_ | lease, next⟩ <;> rw [taken] at claimed
  · exact claimed
  · exact claimed.trans (count _ 1 own)

theorem leased_tryAcquire (b : Books) : b.tryAcquire.2.counters.leased =
    b.counters.leased + .ofNat b.tryAcquire.1.toList.length := by
  have claimed : Counts [] [] b b.claim.2 := .claim b
  have leased : b.claim.2.counters.leased = b.counters.leased := claimed.others .leased (by simp)
  unfold tryAcquire
  rcases taken : b.claim with ⟨_ | lease, next⟩ <;> rw [taken] at leased
  · exact leased.trans (UInt64.add_zero _).symm
  · exact congrArg (· + 1) leased

/-- An erasure counts as an eviction, whether the slot was still there or not. -/
theorem erase_eq (b : Books) (lease : Lease) : ∃ told : Books, Counts [] [] b told ∧
    b.erase lease = ((told.count .evicted 1).forget lease).letGo lease.resource := by
  unfold erase
  cases lease.slot with
  | none => exact ⟨b, .refl b, rfl⟩
  | some slot => exact ⟨_, .tell b _, rfl⟩

theorem Counts.erase (b : Books) (lease : Lease) (own : .evicted ∈ counted) :
    Counts counted [] b (b.erase lease) := by
  obtain ⟨told, quiet, erased⟩ := b.erase_eq lease
  rw [erased]
  exact (((quiet.mono (by simp)).trans (count _ 1 own)).trans (forget _ _)).trans (letGo _ _)

theorem evicted_erase (b : Books) (lease : Lease) :
    (b.erase lease).counters.evicted = b.counters.evicted + 1 := by
  obtain ⟨told, quiet, erased⟩ := b.erase_eq lease
  have forgotten : Counts [] [] (told.count .evicted 1) (b.erase lease) :=
    erased ▸ (Counts.forget _ _).trans (.letGo _ _)
  exact (forgotten.others .evicted (by simp)).trans
    (congrArg (· + 1) (quiet.others .evicted (by simp)))

theorem Counts.acquireChecked (b : Books) (lease : Lease) (verdict : Verdict) :
    Counts verdict.counters [] b (b.acquireChecked lease verdict).2 := by
  have retried : Counts [.evicted, .leased] [] b (b.erase lease).acquire.2 :=
    (erase b lease (by simp)).trans (acquire _ (by simp))
  cases verdict with
  | sound => exact count b 1 (by simp [Verdict.counters])
  | broken | failed => exact retried
  | panicked text =>
      exact release b lease (by simp [Verdict.counters]) (by simp [Verdict.counters])

theorem leased_acquireChecked (b : Books) (lease : Lease) (verdict : Verdict) :
    (b.acquireChecked lease verdict).2.counters.leased =
      b.counters.leased + .ofNat (b.acquireChecked lease verdict).1.handed := by
  have erased : Counts [.evicted] [] b (b.erase lease) := .erase b lease (by simp)
  have retried : (b.erase lease).acquire.2.counters.leased =
      b.counters.leased + .ofNat (b.erase lease).acquire.1.handed := by
    rw [leased_acquire]
    exact congrArg (· + _) (erased.others .leased (by simp))
  cases verdict with
  | sound => rfl
  | broken | failed => exact retried
  | panicked text =>
      have released : Counts [.returned, .discarded] [] b (b.release lease) :=
        .release b lease (by simp) (by simp)
      exact (released.others .leased (by simp)).trans (UInt64.add_zero _).symm

theorem Counts.countEmergency (b : Books)
    (own : [.created, .emergencyCreated, .leased] ⊆ counted) :
    Counts counted [] b b.countEmergency :=
  ((count b 1 (own (by simp))).trans (count _ 1 (own (by simp)))).trans
    (count _ 1 (own (by simp)))

/-- Whether a creation gets into the population or not, it is on record already. -/
theorem Counts.admitEmergency (b : Books) (resource : Resource) (generation : Nat) :
    Counts counted [] b.countEmergency (b.admitEmergency resource generation).2 := by
  rw [admitEmergency_eq]
  rcases b.store.admitLeased resource generation with ⟨_ | slot, store⟩
  · exact tell _ _
  · have stored : Counts counted [] b.countEmergency { b.countEmergency with store } :=
      aside rfl rfl
    exact (stored.trans (take _ _)).trans (tell _ _)

theorem Counts.acquireSupplied (b : Books) (generation : Nat) (call : Resource)
    (supply : Supply) :
    Counts supply.counters [(call, supply)] b (b.acquireSupplied generation call supply).2 := by
  have ended : Counts supply.counters [(call, supply)] b (b.endCall call supply) :=
    endCall b call supply
  cases supply with
  | made =>
      have emergency : Counts Supply.made.counters [] _ (b.endCall call .made).countEmergency :=
        countEmergency _ (List.Subset.refl _)
      exact (ended.trans emergency).trans (admitEmergency _ call generation)
  | failed text => exact ended.trans (count _ 1 (by simp [Supply.counters]))
  | panicked text => exact ended

theorem leased_acquireSupplied (b : Books) (generation : Nat) (call : Resource)
    (supply : Supply) : (b.acquireSupplied generation call supply).2.counters.leased =
      b.counters.leased + .ofNat (b.acquireSupplied generation call supply).1.handed := by
  cases supply with
  | made =>
      have admitted : Counts [] [] (b.endCall call .made).countEmergency _ :=
        .admitEmergency (b.endCall call .made) call generation
      exact admitted.others .leased (by simp)
  | failed | panicked => exact (UInt64.add_zero _).symm

/-! ## Evictions -/

/-- Whether a slot left the store between two states of the books. -/
def loses (before after : Books) (slot : SlotId) : Bool :=
  (before.store.slots.get? slot).isSome && (after.store.slots.get? slot).isNone

/-- Changes that count as one eviction where the slot left the store, and as none otherwise. -/
def CountsLoss (slot : SlotId) (before after : Books) : Prop :=
  after.counters.evicted = before.counters.evicted + .ofNat (before.loses after slot).toNat

namespace CountsLoss
variable {slot : SlotId}

theorem of_kept (store : after.store = before.store)
    (counts : Counts counted ended before after) (spared : .evicted ∉ counted) :
    CountsLoss slot before after := by
  have kept : before.loses after slot = false := by
    rw [loses, store]
    cases before.store.slots.get? slot <;> rfl
  rw [CountsLoss, kept]
  exact (counts.others .evicted spared).trans (UInt64.add_zero _).symm

theorem trans (first : CountsLoss slot before middle) (store : after.store = middle.store)
    (counts : Counts counted [] middle after) (spared : .evicted ∉ counted) :
    CountsLoss slot before after := by
  have evicted : after.counters.evicted = middle.counters.evicted := counts.others .evicted spared
  rw [CountsLoss, evicted, loses, store]
  exact first

theorem of_eq (first : CountsLoss slot middle after) (store : middle.store = before.store)
    (counts : Counts counted [] before middle) (spared : .evicted ∉ counted) :
    CountsLoss slot before after := by
  have evicted : middle.counters.evicted = before.counters.evicted :=
    counts.others .evicted spared
  rw [CountsLoss, loses, ← evicted, ← store]
  exact first

/-- A removal that is counted where the slot was there. -/
theorem remove (b : Books) (slot : SlotId) :
    CountsLoss slot b
      (if (b.remove slot).1 then (b.remove slot).2.count .evicted 1 else (b.remove slot).2) := by
  rcases Store.remove_cases b.store slot with ⟨absent, removed⟩ | ⟨entry, found, removed⟩ <;>
    simp only [Books.remove, removed, CountsLoss]
  · simp [loses, absent]
  · have gone : (b.store.slots.erase slot).get? slot = none :=
      (Table.get?_erase ..).trans (if_pos rfl)
    simp [loses, found, count, letGo, gone]
    rfl

end CountsLoss

end Books
end ResourcePool
