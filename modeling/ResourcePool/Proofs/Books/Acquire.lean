import ResourcePool.Proofs.Books.Changes

/-! What the stretches of an acquisition and of an inspection do to the store, and how
they change the books. -/
namespace ResourcePool

/-- The lease that a claim makes. -/
def Claim.lease (c : Claim Resource) : Lease := ⟨c.resource, some c.slot, c.generation⟩

/-- The lease that an acquisition came to, handed out or still under check. -/
def Acquisition.lease? : Acquisition → Option Lease
  | .leased lease | .checking lease => some lease
  | _ => none

namespace Books
variable {allowed : Deed → Prop} {b : Books}

theorem claim_lease (b : Books) : b.claim.1 = b.store.claim.1.map Claim.lease := by
  unfold claim
  rcases b.store.claim with ⟨_ | _, _⟩ <;> rfl

/-- Nobody hears of a claim, and it is not counted. -/
theorem claim_eq_some {lease : Lease} {next : Books} (claimed : b.claim = (some lease, next)) :
    ∃ slot, lease.slot = some slot ∧
      b.store.claim = (some ⟨slot, lease.resource, lease.generation⟩, next.store) ∧
      next.counters = b.counters ∧ next.journal = b.journal := by
  unfold claim at claimed
  rcases taken : b.store.claim with ⟨_ | claim, store⟩ <;> rw [taken] at claimed <;> cases claimed
  exact ⟨claim.slot, rfl, rfl, rfl, rfl⟩

theorem Changes.createEmergency (b : Books) (call : allowed .callFactory) :
    Changes allowed b b.createEmergency.2 :=
  (Changes.tell b _).trans (.callFactory _ call)

theorem Changes.acquire (b : Books) (claim : allowed (.operate .claim))
    (call : allowed .callFactory) : Changes allowed b b.acquire.2 := by
  have claimed := Changes.claim b claim
  unfold Books.acquire
  rcases taken : b.claim with ⟨_ | lease, next⟩ <;> rw [taken] at claimed
  · exact claimed.trans (.createEmergency next call)
  · simp only
    split
    · exact claimed
    · exact claimed.trans (.count _ _ _)

/-- An acquisition that tries the queue comes to the lease of a claim, or it calls the
factory for the population it found. -/
theorem acquire_spec (b : Books) :
    b.acquire.2.store = b.store.claim.2 ∧
    b.acquire.1.lease? = b.store.claim.1.map Claim.lease ∧
    ∀ generation call, b.acquire.1 = .creating generation call →
      generation = b.acquire.2.store.generation ∧ call = b.calls ∧ call < b.acquire.2.calls := by
  have store := b.store_claim
  have lease := b.claim_lease
  have changes : Changes (· ≠ .callFactory) b b.claim.2 := .claim b (by simp)
  have calls := changes.calls_eq (by simp)
  unfold acquire
  rcases taken : b.claim with ⟨_ | lease', next⟩ <;> rw [taken] at store lease calls <;>
    simp only at store lease calls ⊢
  · refine ⟨store, ?_, ?_⟩
    · rw [← lease]
      rfl
    · rintro generation call ⟨rfl, rfl⟩
      exact ⟨rfl, calls, Nat.lt_succ_self _⟩
  · split
    · exact ⟨store, lease, by simp⟩
    · exact ⟨store, lease, by simp⟩

/-- A lease comes under check by the claim of its slot. -/
theorem acquire_checking {lease : Lease} (waits : b.acquire.1 = .checking lease) :
    b.claim = (some lease, b.acquire.2) := by
  unfold acquire at waits ⊢
  rcases taken : b.claim with ⟨_ | lease', next⟩ <;> rw [taken] at waits <;> simp only at waits ⊢
  · contradiction
  · split at waits <;> cases waits
    rw [if_pos ‹_›]

theorem Changes.tryAcquire (b : Books) (claim : allowed (.operate .claim)) :
    Changes allowed b b.tryAcquire.2 := by
  have claimed := Changes.claim b claim
  unfold Books.tryAcquire
  rcases taken : b.claim with ⟨_ | lease, next⟩ <;> rw [taken] at claimed
  · exact claimed
  · exact claimed.trans (.count _ _ _)

theorem tryAcquire_spec (b : Books) :
    b.tryAcquire.2.store = b.store.claim.2 ∧
      b.tryAcquire.1 = b.store.claim.1.map Claim.lease := by
  have store := b.store_claim
  have lease := b.claim_lease
  unfold tryAcquire
  rcases taken : b.claim with ⟨_ | lease', next⟩ <;> rw [taken] at store lease <;>
    exact ⟨store, lease⟩

theorem Changes.acquireChecked (b : Books) (lease : Lease) (verdict : Verdict)
    (claim : allowed (.operate .claim)) (call : allowed .callFactory)
    (own : ∀ slot, lease.slot = some slot → allowed (.operate (.remove slot)) ∧
      allowed (.operate (.release slot lease.generation))) :
    Changes allowed b (b.acquireChecked lease verdict).2 := by
  cases verdict with
  | sound => exact .count b _ _
  | broken | failed =>
      exact (Changes.erase b lease fun slot pooled => (own slot pooled).1).trans
        (.acquire _ claim call)
  | panicked => exact .release b lease fun slot pooled => (own slot pooled).2

/-- Books with an emergency creation on record. -/
def countEmergency (b : Books) : Books :=
  ((b.count .created 1).count .emergencyCreated 1).count .leased 1

theorem admitEmergency_eq (b : Books) (resource : Resource) (generation : Nat) :
    b.admitEmergency resource generation =
      match b.store.admitLeased resource generation with
      | (some slot, store) => (⟨resource, some slot, generation⟩,
          ({ b.countEmergency with store }.take resource).tell (.emergencyAdded slot))
      | (none, _) => (⟨resource, none, generation⟩, b.countEmergency.tell .emergencySkipped) := rfl

theorem Changes.admitEmergency (b : Books) (resource : Resource) (generation : Nat)
    (entry : allowed (.operate (.admitLeased resource generation))) :
    Changes allowed b (b.admitEmergency resource generation).2 := by
  have counted : Changes allowed b b.countEmergency := .aside rfl rfl rfl
  have admitted : Changes allowed b
      { b.countEmergency with store := (b.store.admitLeased resource generation).2 } :=
    .operate entry rfl rfl rfl
  rw [admitEmergency_eq]
  rcases entered : b.store.admitLeased resource generation with ⟨_ | slot, store⟩
  · exact counted.trans (.tell _ _)
  · rw [entered] at admitted
    exact (admitted.trans (.take _ _)).trans (.tell _ _)

theorem admitEmergency_spec (b : Books) (resource : Resource) (generation : Nat) :
    (b.admitEmergency resource generation).2.store = (b.store.admitLeased resource generation).2 ∧
    (b.admitEmergency resource generation).1 =
      ⟨resource, (b.store.admitLeased resource generation).1, generation⟩ := by
  by_cases fresh : generation = b.store.generation
  · simp only [admitEmergency_eq, Store.admitLeased, if_pos fresh, and_true]
    rfl
  · simp only [admitEmergency_eq, Store.admitLeased, if_neg fresh, and_true]
    rfl

theorem Changes.acquireSupplied (b : Books) (generation : Nat) (call : Resource) (supply : Supply)
    (entry : allowed (.operate (.admitLeased call generation))) :
    Changes allowed b (b.acquireSupplied generation call supply).2 := by
  have ended : Changes allowed b (b.endCall call supply) := .endCall b call supply
  cases supply with
  | made => exact ended.trans (.admitEmergency _ call generation entry)
  | failed => exact ended.trans (.count _ _ _)
  | panicked => exact ended

theorem Changes.inspectNext (b : Books) (i : Inspection) :
    Changes allowed b (b.inspectNext i).2 := by
  unfold Books.inspectNext
  split
  · exact .refl b
  · exact (Changes.letGoAll b _).trans (.count _ _ _)

theorem Changes.inspect (b : Books) (order : List Resource) :
    Changes allowed b (b.inspect order).2 :=
  (Changes.takeAll b _).trans (.inspectNext _ _)

theorem Changes.inspectChecked (b : Books) (i : Inspection) (verdict : Verdict) :
    Changes allowed b (b.inspectChecked i verdict).2 := by
  cases verdict with
  | sound | broken | failed => exact .inspectNext b _
  | panicked => exact .letGoAll b _

end Books
end ResourcePool
