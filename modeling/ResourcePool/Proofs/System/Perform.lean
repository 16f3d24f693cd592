import ResourcePool.Proofs.System.Transaction

/-! Every action has only its effect, transaction by transaction. -/
namespace ResourcePool.System
open Books (Changes)
open Function (update update_self update_of_ne update_idem update_eq_self)
open Relation (ReflTransGen)

variable {s : System} {a : Action} {c : CallId} {l : Lease} {books : Books}

/-! ## Acquisitions -/

theorem get_effect (orderly : s.Orderly) (present : s.present = true) :
    Effect s .get (({ s with books := s.books.acquire.2, fresh := s.fresh + 1 } :
      System).recordGet s.fresh s.books.acquire.1) := by
  obtain ⟨store, lease, created⟩ := s.books.acquire_spec
  refine Effect.recorded orderly (Nat.le_succ _) (Nat.lt_succ_self _) present
    (.acquire _ trivial trivial) id created fun h free => ?_
  have unused : update s.leaseOf (.call s.fresh) none = s.leaseOf := by
    rw [← orderly.freshCall, update_eq_self]
  rw [unused] at free ⊢
  rw [store, lease]
  exact .single (.claim free)

theorem tryGet_effect (orderly : s.Orderly) : Effect s .tryGet (s.callPool .tryGet) := by
  obtain ⟨store, lease⟩ := s.books.tryAcquire_spec
  have changes : Changes (fun _ => True) s.books s.books.tryAcquire.2 := .tryAcquire _ trivial
  have free := orderly.freshLease (Nat.le_refl _)
  have path : ReflTransGen (Custody.Step (s.Warrants .tryGet)) s.custody
      ⟨s.books.tryAcquire.2.store, update s.leaseOf (.lease s.fresh) s.books.tryAcquire.1⟩ := by
    rw [store, lease]
    exact .single (.claim free)
  unfold callPool
  rcases taken : s.books.tryAcquire with ⟨_ | lease, books⟩ <;> rw [taken] at path changes
  · rw [← free, update_eq_self] at path
    exact ⟨.accounted changes (Or.inr id) (Nat.le_refl _) fun _ l found => Or.inl ⟨l, found⟩, path⟩
  · rw [← leaseOf_addLease] at path
    refine ⟨.accounted changes (Or.inr id) (Nat.le_succ _) fun id l found => ?_, path⟩
    simp only [Table.get?_set] at found
    split at found
    · rename_i same
      exact Or.inr (same ▸ Nat.lt_succ_self _)
    · exact Or.inl ⟨l, found⟩

/-- Passing a lease on to somebody who has none is an exchange. -/
theorem pass_path {h h' : Holder} {allowed : Store.Operation Resource → Prop}
    (holds : s.leaseOf h = some l) (free : update s.leaseOf h none h' = none) :
    ReflTransGen (Custody.Step allowed) s.custody
      ⟨s.books.store, update (update s.leaseOf h none) h' (some l)⟩ := by
  have exchanged : s.leaseOf ∘ Equiv.swap h' h = update (update s.leaseOf h none) h' (some l) := by
    rw [Equiv.comp_swap_eq_update, holds]
    by_cases same : h' = h
    · rw [same, update_idem, update_idem]
    · rw [update_of_ne same] at free
      rw [free]
  rw [← exchanged]
  exact .single (.pass (Equiv.swap h' h))

theorem answer_effect (orderly : s.Orderly)
    (found : s.calls.get? c = some (.getting (.checking l))) (verdict : Verdict) :
    Effect s (.answer c verdict) (({ s with books := (s.books.acquireChecked l verdict).2 } :
      System).recordGet c (s.books.acquireChecked l verdict).1) := by
  have holds : s.leaseOf (.call c) = some l := congrArg (Option.bind · Call.lease?) found
  have changes : Changes (fun _ => True) s.books (s.books.acquireChecked l verdict).2 :=
    .acquireChecked _ l verdict trivial trivial fun _ _ => ⟨trivial, trivial⟩
  have erased : Changes (· ≠ .callFactory) s.books (s.books.erase l) := .erase _ l (by simp)
  obtain ⟨store, lease, created⟩ := (s.books.erase l).acquire_spec
  rw [erased.calls_eq (by simp)] at created
  have retried : ∀ h, update s.leaseOf (.call c) none h = none →
      ReflTransGen (Custody.Step (s.Warrants (.answer c verdict))) s.custody
        ⟨(s.books.erase l).acquire.2.store,
          update (update s.leaseOf (.call c) none) h (s.books.erase l).acquire.1.lease?⟩ := by
    intro h free
    have forgotten : ReflTransGen (Custody.Step (s.Warrants (.answer c verdict))) s.custody
        ⟨(s.books.erase l).store, update s.leaseOf (.call c) none⟩ := by
      rw [Books.store_erase]
      exact .single (.forget holds)
    rw [store, lease]
    exact forgotten.tail (.claim free)
  refine Effect.recorded orderly (Nat.le_refl _) (orderly.calls c _ found)
    (orderly.present found rfl) changes id ?_ ?_
  · cases verdict with
    | sound | panicked => simp [Books.acquireChecked]
    | broken | failed => exact created
  · intro h free
    cases verdict with
    | sound => exact pass_path holds free
    | broken | failed => exact retried h free
    | panicked text =>
        have idle := update_eq_self h (update s.leaseOf (.call c) none)
        rw [free] at idle
        simp only [Books.acquireChecked, Acquisition.lease?, idle, Books.store_release]
        exact .single (.giveBack holds)

theorem supply_effect {generation : Nat} {call : Resource} (orderly : s.Orderly)
    (found : s.calls.get? c = some (.getting (.creating generation call))) (supply : Supply) :
    Effect s (.supply c supply)
      (({ s with books := (s.books.acquireSupplied generation call supply).2 } :
        System).recordGet c (s.books.acquireSupplied generation call supply).1) := by
  have unheld : s.leaseOf (.call c) = none := congrArg (Option.bind · Call.lease?) found
  have idle : update s.leaseOf (.call c) none = s.leaseOf := unheld ▸ update_eq_self ..
  refine Effect.recorded orderly (Nat.le_refl _) (orderly.calls c _ found)
    (orderly.present found rfl) (.acquireSupplied _ _ _ _ trivial) (by simp [Warrants]) ?_ ?_
  · cases supply <;> simp [Books.acquireSupplied]
  · intro h free
    rw [idle] at free ⊢
    cases supply with
    | made =>
        obtain ⟨store, lease⟩ := (s.books.endCall call .made).admitEmergency_spec call generation
        simp only [Books.acquireSupplied, Acquisition.lease?, store, lease]
        exact .single (.enter free ⟨generation, call, found, rfl⟩)
    | failed text =>
        simp only [Books.acquireSupplied, Acquisition.lease?, ← free, update_eq_self]
        exact .refl
    | panicked text =>
        simp only [Books.acquireSupplied, Acquisition.lease?, ← free, update_eq_self]
        exact .refl

/-! ## Leases that end -/

theorem erased_known {id : LeaseId} {fresh : Nat} :
    ∀ other l', (s.leases.erase id).get? other = some l' →
      (∃ l, s.leases.get? other = some l) ∨ other < fresh := by
  intro other l' found
  rw [Table.get?_erase] at found
  split at found
  · contradiction
  · exact Or.inl ⟨l', found⟩

/-- Closed books have no slot that a lease could go back to. -/
theorem store_dropLease (orderly : s.Orderly) (id : LeaseId) (l : Lease) :
    (s.dropLease id l).books.store =
      l.slot.elim s.books.store fun slot => (s.books.store.release slot l.generation).2 := by
  unfold dropLease
  split
  · rename_i closed
    cases l.slot with
    | none => rfl
    | some slot => exact (Store.release_absent (orderly.empty closed slot) _).symm
  · exact s.books.store_release l

theorem store_detachLease (orderly : s.Orderly) (id : LeaseId) (l : Lease) :
    (s.detachLease id l).books.store =
      l.slot.elim s.books.store fun slot => (s.books.store.remove slot).2 := by
  unfold detachLease
  split
  · rename_i closed
    cases l.slot with
    | none => rfl
    | some slot => exact (Store.remove_absent (orderly.empty closed slot)).symm
  · exact s.books.store_forget l

theorem dropLease_effect {id : LeaseId} (orderly : s.Orderly) (found : s.leases.get? id = some l) :
    Effect s (.dropLease id) (s.dropLease id l) := by
  refine ⟨.accounted ?_ (Or.inr not_false) (Nat.le_refl _) erased_known, ?_⟩
  · split
    · exact .letGo _ _
    · exact .release _ l fun _ _ => trivial
  · have leaseOf : (s.dropLease id l).leaseOf = update s.leaseOf (.lease id) none :=
      s.leaseOf_eraseLease id
    simp only [System.custody, store_dropLease orderly, leaseOf]
    exact .single (.giveBack found)

theorem detachLease_effect {id : LeaseId} (orderly : s.Orderly)
    (found : s.leases.get? id = some l) :
    Effect s (.detach id) (s.detachLease id l) := by
  refine ⟨.accounted ?_ (Or.inr not_false) (Nat.le_succ _) erased_known, ?_⟩
  · split
    · exact .refl _
    · exact .forget _ l fun _ _ => trivial
  · have leaseOf : (s.detachLease id l).leaseOf = update s.leaseOf (.lease id) none :=
      s.leaseOf_eraseLease id
    simp only [System.custody, store_detachLease orderly, leaseOf]
    exact .single (.forget found)

/-- The check of a lease is given up with the call that waits for it. -/
theorem abandon_effect (orderly : s.Orderly)
    (found : s.calls.get? c = some (.getting (.checking l))) :
    Effect s (.cancel c)
      (({ s with books := s.books.release l } : System).setCall c .cancelled) := by
  have holds : s.leaseOf (.call c) = some l := congrArg (Option.bind · Call.lease?) found
  have released : Frame s (.cancel c) { s with books := s.books.release l } :=
    .accounted (.release _ l fun _ _ => trivial) (Or.inr not_false) (Nat.le_refl _)
      fun _ l found => Or.inl ⟨l, found⟩
  refine ⟨released.setCall rfl (orderly.calls c _ found) rfl (orderly.present found rfl), ?_⟩
  show ReflTransGen _ s.custody
    ⟨(s.books.release l).store, (System.setCall { s with books := _ } c .cancelled).leaseOf⟩
  rw [leaseOf_setCall, Books.store_release]
  exact .single (.giveBack holds)

/-! ## Turns of jobs -/

theorem turn_effect {id : JobId} {j : Job} {signal : Signal} {work : Work Stage}
    (found : s.jobs.get? id = some j) (answered : j.respond s.books signal = some work) :
    Effect s (.signal id signal)
      { s with
        books := (j.turn id work s.books).2
        jobs := s.jobs.set id (j.turn id work s.books).1 } := by
  obtain ⟨changes, kind, proceeds⟩ := Job.turn_spec answered id
  obtain ⟨history, permitted, store⟩ := changes.history
  have path : ReflTransGen (Custody.Step (s.Warrants (.signal id signal))) s.custody
      ⟨s.books.store.after history, s.leaseOf⟩ :=
    Custody.upkeep_steps s.custody fun operation member =>
      ⟨(permitted operation member).isUpkeep, j, found, permitted operation member⟩
  refine ⟨⟨changes.mono fun _ _ => trivial, ?_, Nat.le_refl _, rfl, Or.inl rfl,
    fun _ l found => Or.inl ⟨l, found⟩, fun _ _ found => Or.inl found, ?_⟩, ?_⟩
  · by_cases launching : signal = .launch
    · subst launching
      refine Or.inr ?_
      rintro ⟨j', found', ticking⟩
      cases found.symm.trans found'
      cases Job.responds answered with
      | launch creating => cases creating.symm.trans ticking
    · exact Or.inl (changes.calls_eq launching)
  · intro other j' stored
    simp only [Table.get?_set] at stored
    split at stored
    · rename_i same
      subst same
      cases stored
      exact Or.inr (Or.inr ⟨j, signal, rfl, found, (Job.responds answered).not_isOver,
        kind.symm, proceeds⟩)
    · exact Or.inl ⟨j', stored, rfl, rfl⟩
  · simp only [System.custody, store]
    exact path

theorem clear_effect (s : System) : Effect s .clear { s with books := s.books.clear } := by
  have cleared : Changes (· ≠ .callFactory) s.books s.books.clear := .clear _ (by simp)
  refine ⟨.accounted (.clear _ trivial) (Or.inl (cleared.calls_eq (by simp))) (Nat.le_refl _)
    fun _ l found => Or.inl ⟨l, found⟩, ?_⟩
  show ReflTransGen _ s.custody ⟨s.books.clear.store, s.leaseOf⟩
  rw [Books.store_clear]
  exact .single (.upkeep rfl (show s.Warrants .clear .clear from rfl))

/-! ## All actions -/

theorem Incidental.effect {next : System} (incidental : s.Incidental next) : Effect s a next := by
  cases incidental with
  | kept kept => exact .quiet kept
  | recorded kept plain free range present => exact .plainCall kept plain free range present
  | givenUp idle =>
      have kept := Housekeeping.disableAll s
      have quiet : Effect s a s.disableAll := .quiet kept
      exact ⟨{ quiet with present := Or.inr ⟨rfl, fun c call found => idle c call
        (kept.calls ▸ found)⟩ }, quiet.custody⟩

theorem Transacts.effect {transaction : Transaction} {next : System} (orderly : s.Orderly)
    (transacts : s.Transacts a transaction next) : Effect s a next := by
  cases transacts with
  | get present => exact get_effect orderly present
  | tryGet => exact tryGet_effect orderly
  | clear => exact clear_effect s
  | dropped found => exact dropLease_effect orderly found
  | detached found => exact detachLease_effect orderly found
  | abandoned found => exact abandon_effect orderly found
  | checked verdict found => exact answer_effect orderly found verdict
  | supplied supply found => exact supply_effect orderly found supply
  | turned found answered => exact turn_effect found answered

theorem perform_effect (orderly : s.Orderly) (a : Action) : Effect s a (s.perform a) := by
  rcases perform_cases orderly a with ⟨_, _, transacts⟩ | ⟨_, incidental⟩
  · exact transacts.effect orderly
  · exact incidental.effect

end ResourcePool.System
