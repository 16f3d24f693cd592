import ResourcePool.Proofs.Jobs.Registry
import ResourcePool.Proofs.System.Clearing
import ResourcePool.Proofs.System.Eviction
import ResourcePool.Proofs.System.Leases
import ResourcePool.Proofs.System.Selection

/-! A get that ends while it waits. The slot whose check it waited for goes back to where it was
claimed from, and nobody hears of it; a factory call that it waited for is of no consequence. -/
namespace ResourcePool.System

variable {s : System} {a : Action} {c : CallId} {l : Lease} {slot : SlotId}

/-- Whether a call begins to wait for the check of a lease by an action. -/
def BeginsCheck (s : System) (a : Action) (c : CallId) (l : Lease) : Prop :=
  s.calls.get? c ≠ some (.getting (.checking l)) ∧
    (s.step a).calls.get? c = some (.getting (.checking l))

/-- The books as an action finds them that claims a slot for a get. Where a resource did not pass
its check, its slot is erased before the next one is claimed. -/
def beforeClaim (s : System) : Action → Books
  | .answer c _ =>
      match s.calls.get? c with
      | some (.getting (.checking l)) => s.books.erase l
      | _ => s.books
  | _ => s.books

/-- Whether an action ends the wait for a check: the call is given up, or the check panics. -/
inductive Abandons (c : CallId) : Action → Prop
  | cancelled : Abandons c (.cancel c)
  | unwound (text : String) : Abandons c (.answer c (.panicked text))

/-- Whether neither a clearing nor an eviction comes between a lease and its slot. -/
def Undisturbed (s : System) (l : Lease) (slot : SlotId) (actions : List Action) : Prop :=
  s.Unclears actions ∧ ∀ early a late, actions = early ++ a :: late →
    ¬ (s.run early).EvictsLeased a l slot

/-! ## The claim -/

theorem calls_recordGet_getting {acquisition waiting : Acquisition} {c' : CallId}
    (found : (s.recordGet c acquisition).calls.get? c' = some (.getting waiting)) :
    s.calls.get? c' = some (.getting waiting) ∨ c' = c ∧ acquisition = waiting := by
  cases acquisition <;>
    simp only [recordGet, addLease, newId, finishCall, setCall, Table.get?_set] at found <;>
    split at found <;> first
      | exact Or.inl found
      | exact Or.inr ⟨Eq.symm ‹_›, Call.getting.inj (Option.some.inj found)⟩
      | cases found

theorem Transacts.claims {transaction : Transaction} {next : System}
    (transacts : s.Transacts a transaction next)
    (idle : s.calls.get? c ≠ some (.getting (.checking l)))
    (waits : next.calls.get? c = some (.getting (.checking l))) :
    (s.beforeClaim a).claim = (some l, next.books) := by
  cases transacts with
  | get present =>
      obtain before | ⟨_, acquired⟩ := calls_recordGet_getting waits
      · exact absurd before idle
      · rw [books_recordGet]
        exact Books.acquire_checking acquired
  | tryGet =>
      have same : (s.callPool .tryGet).calls = s.calls := by
        unfold callPool
        rcases s.books.tryAcquire with ⟨_ | lease, books⟩ <;> rfl
      exact absurd (same ▸ waits) idle
  | clear | dropped | detached | turned => exact absurd waits idle
  | @abandoned c' _ found =>
      simp only [setCall, Table.get?_set] at waits
      split at waits
      · cases waits
      · exact absurd waits idle
  | @checked c' l' verdict found =>
      obtain before | ⟨_, acquired⟩ := calls_recordGet_getting waits
      · exact absurd before idle
      · rw [books_recordGet]
        simp only [beforeClaim, found]
        cases verdict with
        | broken | failed => exact Books.acquire_checking acquired
        | sound | panicked => contradiction
  | @supplied c' generation call supply found =>
      obtain before | ⟨_, acquired⟩ := calls_recordGet_getting waits
      · exact absurd before idle
      · cases supply <;> contradiction

theorem Incidental.waits {next : System} (incidental : s.Incidental next)
    (waits : next.calls.get? c = some (.getting (.checking l))) :
    s.calls.get? c = some (.getting (.checking l)) := by
  cases incidental with
  | kept kept => exact kept.calls ▸ waits
  | recorded kept plain _ _ _ =>
      simp only [setCall, Table.get?_set] at waits
      split at waits
      · cases waits
        contradiction
      · exact kept.calls ▸ waits
  | givenUp _ => exact (Housekeeping.disableAll s).calls ▸ waits

/-- A call begins to wait for a check by a claim. -/
theorem BeginsCheck.claims (begins : s.BeginsCheck a c l) (orderly : s.Orderly) :
    (s.beforeClaim a).claim = (some l, (s.step a).books) := by
  obtain ⟨idle, waits⟩ := begins
  obtain same | performed := step_cases s a
  · exact absurd (same ▸ waits) idle
  have present := (orderly.step a).present waits rfl
  rw [performed, (s.perform a).settle_registry.2.1] at present
  rw [performed, settle_present present] at waits ⊢
  obtain ⟨_, _, transacts⟩ | ⟨_, incidental⟩ := perform_cases orderly a
  · exact transacts.claims idle waits
  · exact absurd (incidental.waits waits) idle

theorem sound_beforeClaim (orderly : s.Orderly) (a : Action) : (s.beforeClaim a).store.Sound := by
  have sound := orderly.custody.sound
  cases a with
  | answer c verdict =>
      simp only [beforeClaim]
      split
      · rename_i l _
        have erased : Books.Changes (fun _ => True) s.books (s.books.erase l) :=
          .erase _ l fun _ _ => trivial
        exact erased.sound sound
      · exact sound
  | _ => exact sound

/-- A call that waits for a check has begun to by some action. -/
theorem exists_beginsCheck (idle : s.calls.get? c ≠ some (.getting (.checking l)))
    (actions : List Action) (waits : (s.run actions).calls.get? c = some (.getting (.checking l))) :
    ∃ early a later, actions = early ++ a :: later ∧ (s.run early).BeginsCheck a c l := by
  induction actions using List.reverseRecOn with
  | nil => exact absurd waits idle
  | append_singleton actions a ih =>
      by_cases before : (s.run actions).calls.get? c = some (.getting (.checking l))
      · obtain ⟨early, first, later, split, begins⟩ := ih before
        exact ⟨early, first, later ++ [a], by simp [split], begins⟩
      · exact ⟨actions, a, [], rfl, before, run_concat s actions a ▸ waits⟩

/-! ## The end of the wait -/

/-- Ending the wait for a check releases the lease, and does nothing else to the books. -/
theorem Abandons.books (abandons : Abandons c a) (orderly : s.Orderly)
    (running : s.books.terminated = false)
    (waits : s.calls.get? c = some (.getting (.checking l))) :
    (s.step a).books = s.books.release l := by
  have present := orderly.present waits rfl
  cases abandons with
  | cancelled =>
      simp only [step, running, perform, waits, cancelCall, Books.abandon]
      exact congrArg books (settle_present (s := setCall { s with books := _ } c _) present)
  | unwound text =>
      simp only [step, running, perform, waits, Books.acquireChecked, recordGet]
      exact congrArg books (settle_present (s := finishCall { s with books := _ } c _) present)

theorem cancel_creating {generation : Nat} {call : Resource} (orderly : s.Orderly)
    (running : s.books.terminated = false)
    (waits : s.calls.get? c = some (.getting (.creating generation call))) :
    s.step (.cancel c) = s.setCall c .cancelled := by
  simp only [step, running, perform, waits, cancelCall, Books.abandon]
  exact settle_present (s := s.setCall c .cancelled) (orderly.present waits rfl)

/-- An undisturbed lease is still the lease of its slot. -/
theorem Undisturbed.stored {actions : List Action} (undisturbed : s.Undisturbed l slot actions)
    (orderly : s.Orderly) (pooled : l.slot = some slot)
    (stored : s.books.store.slots.get? slot = some ⟨l.resource, l.generation, .leased⟩)
    (waits : (s.run actions).calls.get? c = some (.getting (.checking l))) :
    l.generation = (s.run actions).books.store.generation ∧
      (s.run actions).books.store.slots.get? slot = some ⟨l.resource, l.generation, .leased⟩ := by
  have orderly' := orderly.run actions
  have holds : (s.run actions).custody.leaseOf (.call c) = some l :=
    congrArg (Option.bind · Call.lease?) waits
  have current : l.generation = (s.run actions).books.store.generation := by
    rw [(unclears_iff orderly actions).mp undisturbed.1]
    exact orderly.custody.sound.current slot _ stored
  refine ⟨current, ?_⟩
  cases found : (s.run actions).books.store.slots.get? slot with
  | some entry => exact congrArg some (orderly'.custody.leased _ l slot entry holds pooled found)
  | none =>
      have reachable : (s.run actions).closed = false := by
        cases closed : (s.run actions).closed with
        | false => rfl
        | true => cases (orderly'.absent closed).symm.trans (orderly'.present waits rfl)
      obtain ⟨_, _, _, absent⟩ | ⟨early, evicting, late, split, evicts⟩ :=
        orderly.bereft_run actions reachable ⟨⟨_, holds⟩, pooled, current, found⟩
      · cases absent.symm.trans stored
      · exact absurd evicts (undisturbed.2 early evicting late split)

/-- A lease that was disturbed is not recycled any more. -/
theorem release_disturbed {actions : List Action} (disturbed : ¬ s.Undisturbed l slot actions)
    (orderly : s.Orderly)
    (stored : s.books.store.slots.get? slot = some ⟨l.resource, l.generation, .leased⟩) :
    (s.run actions).books.store.release slot l.generation =
      (.discarded, (s.run actions).books.store) := by
  have current : l.generation = s.books.store.generation :=
    orderly.custody.sound.current slot _ stored
  obtain ⟨entry, fresh, found, _⟩ | ⟨_, released⟩ :=
    Store.release_cases (s.run actions).books.store slot l.generation
  · refine absurd ⟨(unclears_iff orderly actions).mpr (fresh ▸ current), ?_⟩ disturbed
    rintro early a late rfl evicts
    obtain ⟨⟨_, before⟩, absent⟩ := evicts.lost
    have orderly' := orderly.run early
    have lacks := orderly'.lacks_of_gone before absent
    rw [run_append] at found
    cases ((orderly'.step a).lacks_run lacks late).absent.symm.trans found
  · exact released

/-- What becomes of a get that is given up, or unwound by a panic of the check that it waits for.
The call has claimed the slot under check by some action, which nobody heard of and no lease was
counted for. Its end counts no lease either, and unless the store was changed since the claim it is
afterwards as the claim found it. Whatever else has happened since, the slot is the one that became
available last again if neither a clearing nor an eviction came between, and otherwise it is
discarded and the store left as it is. A get that is given up during its factory call changes
nothing but its own record. -/
theorem get_abandoned (id : Nat) (settings : Settings) (sink : Sink) (actions : List Action)
    (c : CallId) :
    let start := ofSettings id settings sink
    let t := start.run actions
    t.books.terminated = false →
    (∀ l ending, t.calls.get? c = some (.getting (.checking l)) → Abandons c ending →
      let after := (t.step ending).books
      after.counters.leased = t.books.counters.leased ∧
      (∃ early a later, actions = early ++ a :: later ∧ (start.run early).BeginsCheck a c l) ∧
      ∀ early a later, actions = early ++ a :: later → (start.run early).BeginsCheck a c l →
        let before := (start.run early).beforeClaim a
        let claimed := (start.run early).step a
        claimed.books.counters = before.counters ∧ claimed.books.journal = before.journal ∧
        ∃ slot, l.slot = some slot ∧
          before.store.claim = (some ⟨slot, l.resource, l.generation⟩, claimed.books.store) ∧
          (t.books.store = claimed.books.store →
            after.store = before.store ∧ after.journal = t.books.journal) ∧
          (claimed.Undisturbed l slot later →
            after.store = { t.books.store with
              slots := t.books.store.slots.set slot ⟨l.resource, l.generation, .available⟩
              available := t.books.store.available ++ [slot] } ∧
            after.journal = t.books.journal) ∧
          (¬ claimed.Undisturbed l slot later →
            after.store = t.books.store ∧
            after.counters.discarded = t.books.counters.discarded + 1)) ∧
    ∀ generation call, t.calls.get? c = some (.getting (.creating generation call)) →
      t.step (.cancel c) = t.setCall c .cancelled := by
  intro start t running
  have initial : start.Orderly := orderly_ofSettings id settings sink
  have orderly : t.Orderly := initial.run actions
  refine ⟨?_, fun generation call waits => cancel_creating orderly running waits⟩
  intro l ending waits abandons after
  have released : after = t.books.release l := abandons.books orderly running waits
  refine ⟨?_, exists_beginsCheck (by simp [start, ofSettings]) actions waits, ?_⟩
  · have counts : Books.Counts [.returned, .discarded] [] t.books (t.books.release l) :=
      .release _ l (by simp) (by simp)
    rw [released]
    exact counts.others .leased (by simp)
  intro early a later split begins before claimed
  have orderly' : claimed.Orderly := (initial.run early).step a
  have sound : before.store.Sound := sound_beforeClaim (initial.run early) a
  obtain ⟨slot, pooled, taken, counters, journal⟩ :=
    Books.claim_eq_some (begins.claims (initial.run early))
  have stored : claimed.books.store.slots.get? slot = some ⟨l.resource, l.generation, .leased⟩ := by
    have stored := sound.claim_stored (congrArg Prod.fst taken)
    rwa [taken] at stored
  have reached : t = claimed.run later := by
    have whole := start.run_append early (a :: later)
    rwa [← split] at whole
  refine ⟨counters, journal, slot, pooled, taken, ?_, ?_, ?_⟩
  · intro unchanged
    have restored : t.books.store.release slot l.generation = (.recycled, before.store) := by
      have restored := sound.release_claim (congrArg Prod.fst taken)
      rwa [taken, ← unchanged] at restored
    rw [released, Books.release_recycled pooled restored]
    exact ⟨rfl, rfl⟩
  · intro undisturbed
    obtain ⟨current, kept⟩ := undisturbed.stored orderly' pooled stored (reached ▸ waits)
    rw [← reached] at current kept
    have recycled : t.books.store.release slot l.generation = (.recycled, { t.books.store with
        slots := t.books.store.slots.set slot ⟨l.resource, l.generation, .available⟩
        available := t.books.store.available ++ [slot] }) := by
      simp [Store.release, ← current, kept]
    rw [released, Books.release_recycled pooled recycled]
    exact ⟨rfl, rfl⟩
  · intro disturbed
    have discarded := release_disturbed disturbed orderly' stored
    rw [← reached] at discarded
    rw [released, Books.release_discarded pooled discarded]
    exact ⟨rfl, rfl⟩

/-- The newest slot has not passed its check, and the get is given up during that of the next. -/
theorem get_abandoned_second :
    let start := ofSettings 1 { hasCheck := true, checkOnAccess := true } .accepting
    let early := [.get, .supply 0 .made, .get, .supply 2 .made, .dropLease 1, .dropLease 3, .get]
    let t := start.run (early ++ [.answer 4 .broken])
    let before := (start.run early).beforeClaim (.answer 4 .broken)
    t.calls.get? 4 = some (.getting (.checking ⟨0, some ⟨0⟩, 0⟩)) ∧
      before.store.available = [⟨0⟩] ∧ (t.step (.cancel 4)).books.store = before.store := by
  have waits : ((ofSettings 1 { hasCheck := true, checkOnAccess := true } .accepting).run
      [.get, .supply 0 .made, .get, .supply 2 .made, .dropLease 1, .dropLease 3, .get,
        .answer 4 .broken]).calls.get? 4 = some (.getting (.checking ⟨0, some ⟨0⟩, 0⟩)) := by
    decide
  obtain ⟨checking, _⟩ := get_abandoned 1 { hasCheck := true, checkOnAccess := true } .accepting
    [.get, .supply 0 .made, .get, .supply 2 .made, .dropLease 1, .dropLease 3, .get,
      .answer 4 .broken] 4 rfl
  obtain ⟨_, _, claims⟩ := checking _ _ waits .cancelled
  obtain ⟨_, _, slot, _, _, restores, _⟩ := claims
    [.get, .supply 0 .made, .get, .supply 2 .made, .dropLease 1, .dropLease 3, .get]
    (.answer 4 .broken) [] rfl ⟨by decide, waits⟩
  exact ⟨waits, by decide, (restores rfl).1⟩

end ResourcePool.System
