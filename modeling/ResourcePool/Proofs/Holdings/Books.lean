import ResourcePool.Proofs.Books.Acquire
import ResourcePool.Proofs.Holdings.Store

/-! Who keeps which references. The store keeps one for each slot, and everybody else keeps
his own; an operation on the books is a trade, in which some references are given up and others
are taken, whoever keeps the rest. -/
namespace ResourcePool

/-- What the holder of a lease keeps. -/
def Lease.holdings (l : Lease) : Multiset Resource := {l.resource}

/-- What a call that waits for an acquisition keeps, or has come to. -/
def Acquisition.holdings (acquisition : Acquisition) : Multiset Resource :=
  acquisition.lease?.elim 0 Lease.holdings

def Inspecting.holdings : Inspecting → Multiset Resource
  | .checking inspection => inspection.members
  | _ => 0

/-- What came of a factory call. -/
def Supply.holdings (call : Resource) : Supply → Multiset Resource
  | .made => {call}
  | _ => 0

namespace Books
variable {b before middle after : Books} {given taken : Multiset Resource} {lease : Lease}

/-- Every reference is the store's or one of the others. -/
structure Keeps (b : Books) (others : Multiset Resource) : Prop where
  sound : b.store.Sound
  even : (b.references : Multiset Resource) = b.store.holdings + others

/-- Some references are given up for others, whoever keeps the rest. -/
structure Trades (before after : Books) (given taken : Multiset Resource) : Prop where
  keeps : ∀ others, before.Keeps (given + others) → after.Keeps (taken + others)

namespace Trades

theorem refl (b : Books) (given : Multiset Resource) : Trades b b given given :=
  ⟨fun _ keeps => keeps⟩

theorem trans {passed : Multiset Resource} (first : Trades before middle given passed)
    (second : Trades middle after passed taken) : Trades before after given taken :=
  ⟨fun others keeps => second.keeps others (first.keeps others keeps)⟩

/-- What is kept beside a trade is kept. -/
theorem beside (trades : Trades before after given taken) (rest : Multiset Resource) :
    Trades before after (given + rest) (taken + rest) := by
  refine ⟨fun others keeps => ?_⟩
  rw [add_assoc] at keeps ⊢
  exact trades.keeps (rest + others) keeps

theorem aside (store : after.store = before.store)
    (references : after.references = before.references) : Trades before after given given := by
  refine ⟨fun others keeps => ?_⟩
  exact ⟨store ▸ keeps.sound, by rw [references, store, keeps.even]⟩

theorem note (b : Books) (report : Report) (given : Multiset Resource) :
    Trades b (b.note report) given given := aside rfl rfl

theorem tell (b : Books) (event : Event) (given : Multiset Resource) :
    Trades b (b.tell event) given given := aside rfl rfl

theorem count (b : Books) (counter : Counter) (amount : Nat) (given : Multiset Resource) :
    Trades b (b.count counter amount) given given := aside rfl rfl

theorem take (b : Books) (resource : Resource) : Trades b (b.take resource) 0 {resource} := by
  refine ⟨fun others keeps => ?_⟩
  refine ⟨keeps.sound, ?_⟩
  have even := keeps.even
  rw [zero_add] at even
  show ((resource :: b.references : List Resource) : Multiset Resource) = _
  rw [← Multiset.cons_coe, even, ← Multiset.singleton_add]
  exact add_left_comm ..

theorem letGo (b : Books) (resource : Resource) : Trades b (b.letGo resource) {resource} 0 := by
  refine ⟨fun others keeps => ?_⟩
  refine ⟨keeps.sound, ?_⟩
  show ((b.references.erase resource : List Resource) : Multiset Resource) = _
  rw [← Multiset.coe_erase, keeps.even, add_left_comm, Multiset.singleton_add,
    Multiset.erase_cons_head, zero_add]
  rfl

theorem takeAll (b : Books) (resources : List Resource) :
    Trades b (b.takeAll resources) 0 resources := by
  induction resources generalizing b with
  | nil => exact refl b 0
  | cons resource rest ih =>
      have others := (ih (b.take resource)).beside {resource}
      rw [zero_add, add_comm, Multiset.singleton_add] at others
      exact (take b resource).trans others

theorem letGoAll (b : Books) (resources : List Resource) :
    Trades b (b.letGoAll resources) resources 0 := by
  induction resources generalizing b with
  | nil => exact refl b 0
  | cons resource rest ih =>
      have first := (letGo b resource).beside ↑rest
      rw [zero_add, Multiset.singleton_add] at first
      exact first.trans (ih (b.letGo resource))

/-- The store may hand over what it does not hold any more, and take in what is given to it. -/
theorem restock {store : Store Resource} (sound : b.store.Sound → store.Sound)
    (holdings : b.store.Sound → b.store.holdings + given = store.holdings + taken) :
    Trades b { b with store } given taken := by
  refine ⟨fun others keeps => ?_⟩
  refine ⟨sound keeps.sound, ?_⟩
  have even := keeps.even
  rw [← add_assoc, holdings keeps.sound, add_assoc] at even
  exact even

/-- A store that is emptied hands over what it held. -/
theorem handOver {store : Store Resource} (sound : store.Sound) (none : store.holdings = 0) :
    Trades b { b with store } 0 ↑b.store.members := by
  refine restock (fun _ => sound) fun _ => ?_
  rw [add_zero, none, zero_add, b.store.coe_members]

/-- Closed books let go of what the store held. -/
theorem close (b : Books) : Trades b { b.letGoAll b.store.members with
    store := { b.store with slots := {}, available := [] } } 0 0 := by
  have commutes (b : Books) (store : Store Resource) (resources : List Resource) :
      ({ b with store } : Books).letGoAll resources = { b.letGoAll resources with store } := by
    induction resources generalizing b with
    | nil => rfl
    | cons resource rest ih => exact ih (b.letGo resource)
  rw [← commutes]
  exact (handOver (.emptied b.store) (Table.total_empty _)).trans (.letGoAll _ b.store.members)

/-! ## Operations of callers -/

theorem clear (b : Books) : Trades b b.clear 0 0 := by
  have emptied : Trades b { b with store := b.store.clear.2 } 0 ↑b.store.members :=
    handOver (.clear b.store) b.store.holdings_clear
  exact ((emptied.trans (.count _ .clears 1 _)).trans (.tell _ _ _)).trans (.letGoAll _ _)

theorem release (b : Books) (lease : Lease) : Trades b (b.release lease) lease.holdings 0 := by
  have discarded (released : Books) (given : Multiset Resource) : Trades released
      ((released.count .discarded 1).tell (.returnDiscarded lease.slot)) given given :=
    (count released _ _ given).trans (.tell _ _ given)
  unfold Books.release
  cases pooled : lease.slot with
  | none => exact (pooled ▸ discarded b lease.holdings).trans (.letGo _ lease.resource)
  | some slot =>
      have kept := b.store.holdings_release slot lease.generation
      have sound (sound : b.store.Sound) := sound.release slot lease.generation
      rcases released : b.store.release slot lease.generation with ⟨outcome, store⟩
      rw [released] at kept sound
      have back : Trades b { b with store } lease.holdings lease.holdings :=
        restock sound fun _ => by rw [kept]
      simp only [released]
      cases outcome with
      | recycled => exact (back.trans (.count _ .returned 1 _)).trans (.letGo _ lease.resource)
      | discarded =>
          exact (back.trans (pooled ▸ discarded _ _)).trans (.letGo _ lease.resource)

theorem remove (b : Books) (slot : SlotId) : Trades b (b.remove slot).2 0 0 := by
  have held (sound : b.store.Sound) := Store.holdings_remove sound slot
  have sound (sound : b.store.Sound) := sound.remove slot
  unfold Books.remove
  rcases removed : b.store.remove slot with ⟨_ | resource, store⟩ <;> rw [removed] at held sound
  · exact refl b 0
  · have out : Trades b { b with store } 0 {resource} :=
      restock sound fun sound => by rw [add_zero, held sound, add_comm]; rfl
    exact out.trans (.letGo _ resource)

theorem forget (b : Books) (lease : Lease) : Trades b (b.forget lease) 0 0 := by
  unfold Books.forget
  cases lease.slot with
  | none => exact refl b 0
  | some slot => exact remove b slot

theorem claim (b : Books) : Trades b b.claim.2 0 (b.claim.1.elim 0 Lease.holdings) := by
  have kept (sound : b.store.Sound) := Store.holdings_claim sound
  have sound (sound : b.store.Sound) := sound.claim
  unfold Books.claim
  rcases claimed : b.store.claim with ⟨_ | claim, store⟩ <;> rw [claimed] at kept sound
  · refine restock sound fun sound => ?_
    rw [kept sound]
    rfl
  · have stored : Trades b { b with store } 0 0 := restock sound fun sound => by rw [kept sound]
    exact stored.trans (.take _ claim.resource)

theorem callFactory (b : Books) : Trades b b.callFactory.2 0 0 := aside rfl rfl

theorem endCall (b : Books) (call : Resource) (supply : Supply) :
    Trades b (b.endCall call supply) 0 (supply.holdings call) := by
  have noted := note b (.factoryEnded call supply) 0
  cases supply with
  | made => exact noted.trans (.take _ call)
  | failed | panicked => exact noted

theorem erase (b : Books) (lease : Lease) : Trades b (b.erase lease) lease.holdings 0 := by
  have erased (told : Books) : Trades told
      (((told.count .evicted 1).forget lease).letGo lease.resource) lease.holdings 0 := by
    have forgotten := (forget (told.count .evicted 1) lease).beside lease.holdings
    rw [zero_add] at forgotten
    exact ((count told .evicted 1 _).trans forgotten).trans (.letGo _ lease.resource)
  unfold Books.erase
  cases lease.slot with
  | none => exact erased b
  | some slot => exact (tell b (.erasing slot) _).trans (erased _)

/-! ## Acquisitions -/

theorem acquire (b : Books) : Trades b b.acquire.2 0 b.acquire.1.holdings := by
  have claimed := claim b
  unfold Books.acquire
  rcases taken : b.claim with ⟨_ | lease, next⟩ <;> rw [taken] at claimed
  · exact (claimed.trans (.tell next .emergencyCreation 0)).trans (.callFactory _)
  · simp only
    split
    · exact claimed
    · exact claimed.trans (.count next .leased 1 _)

theorem tryAcquire (b : Books) :
    Trades b b.tryAcquire.2 0 (b.tryAcquire.1.elim 0 Lease.holdings) := by
  have claimed := claim b
  unfold Books.tryAcquire
  rcases taken : b.claim with ⟨_ | lease, next⟩ <;> rw [taken] at claimed
  · exact claimed
  · exact claimed.trans (.count next .leased 1 _)

theorem acquireChecked (b : Books) (lease : Lease) (verdict : Verdict) :
    Trades b (b.acquireChecked lease verdict).2 lease.holdings
      (b.acquireChecked lease verdict).1.holdings := by
  cases verdict with
  | sound => exact count b .leased 1 _
  | broken | failed => exact (erase b lease).trans (.acquire _)
  | panicked => exact release b lease

/-- What a caller's factory call made is referenced by its lease, and by the store too if it is
pooled. -/
theorem admitEmergency (b : Books) (call : Resource) (generation : Nat) :
    Trades b (b.admitEmergency call generation).2 {call}
      (b.admitEmergency call generation).1.holdings := by
  have counted (b : Books) : Trades b
      (((b.count .created 1).count .emergencyCreated 1).count .leased 1) {call} {call} :=
    aside rfl rfl
  refine (counted b).trans ?_
  unfold Books.admitEmergency
  generalize ((b.count .created 1).count .emergencyCreated 1).count .leased 1 = b
  have held (sound : b.store.Sound) := Store.holdings_admitLeased sound call generation
  have sound (sound : b.store.Sound) := sound.admitLeased call generation
  simp only
  rcases admitted : b.store.admitLeased call generation with ⟨_ | slot, store⟩ <;>
    rw [admitted] at held sound
  · exact tell b .emergencySkipped _
  · have twice := (take b call).beside {call}
    have pooled : Trades (b.take call) { b.take call with store } ({call} + {call}) {call} := by
      refine restock sound fun sound => ?_
      rw [held sound]
      show b.store.holdings + ({call} + {call}) = {call} + b.store.holdings + {call}
      rw [add_left_comm, add_assoc]
    rw [zero_add] at twice
    exact (twice.trans pooled).trans (.tell _ (.emergencyAdded slot) _)

theorem acquireSupplied (b : Books) (generation : Nat) (call : Resource) (supply : Supply) :
    Trades b (b.acquireSupplied generation call supply).2 0
      (b.acquireSupplied generation call supply).1.holdings := by
  have ended := endCall b call supply
  cases supply with
  | made => exact ended.trans (.admitEmergency _ call generation)
  | failed => exact ended.trans (.count _ .factoryFailures 1 0)
  | panicked => exact ended

/-! ## Inspections -/

theorem inspectNext (b : Books) (i : Inspection) :
    Trades b (b.inspectNext i).2 i.members (b.inspectNext i).1.holdings := by
  unfold Books.inspectNext
  cases i.pending with
  | cons member rest => exact refl b _
  | nil => exact (letGoAll b i.members).trans (.count _ .unhealthy i.unhealthy 0)

theorem inspect (b : Books) (order : List Resource) :
    Trades b (b.inspect order).2 0 (b.inspect order).1.holdings :=
  (takeAll b (b.store.membersIn order)).trans (.inspectNext _ _)

theorem inspectChecked (b : Books) (i : Inspection) (verdict : Verdict) :
    Trades b (b.inspectChecked i verdict).2 i.members (b.inspectChecked i verdict).1.holdings := by
  cases verdict with
  | sound | broken | failed => exact inspectNext b _
  | panicked => exact letGoAll b i.members

end Trades
end Books
end ResourcePool
