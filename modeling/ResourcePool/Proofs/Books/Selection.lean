import Mathlib.Logic.Function.Iterate
import ResourcePool.Proofs.Books.Acquire
import ResourcePool.Proofs.Books.Postings
import ResourcePool.Proofs.Store.Sound

/-! What an acquisition comes to when nothing interferes with it. It scans the queue from the
newest slot to the oldest, takes the slots off the books whose resources do not pass their check,
and leases the first one that is left. Where none is left it makes a resource. -/
namespace ResourcePool

/-- A health check as a function of the resource: it passes, does not, or could not be checked. -/
abbrev Check := Resource → Except String Bool

def Check.verdict (check : Check) (resource : Resource) : Verdict :=
  match check resource with
  | .ok true => .sound
  | .ok false => .broken
  | .error text => .failed text

theorem Check.verdict_eq_sound_iff (check : Check) (resource : Resource) :
    check.verdict resource = .sound ↔ check resource = .ok true := by
  unfold verdict
  split <;> simp_all

namespace Books
variable {check : Check} {supply : Supply} {b : Books} {slot : SlotId} {queue : List SlotId}
variable {entry : Slot Resource}

/-- Whether an acquisition turns an available slot down. -/
def spurns (check : Check) (b : Books) (slot : SlotId) : Bool :=
  b.checksOnAccess && match b.store.slots.get? slot with
    | some entry => check.verdict entry.resource != .sound
    | none => false

/-- Available slots that are turned down before one passes, the newest first. -/
def failing (check : Check) (b : Books) : List SlotId :=
  b.store.available.reverse.takeWhile (b.spurns check)

/-- Takes an available slot off the books for its resource's check. -/
def reject (b : Books) (slot : SlotId) : Books :=
  (((b.tell (.erasing slot)).count .evicted 1).remove slot).2

def rejectAll (b : Books) (slots : List SlotId) : Books := slots.foldl reject b

/-- Leases the newest slot, which leaves the older ones in the queue. -/
def lend (b : Books) (slot : SlotId) (entry : Slot Resource) (queue : List SlotId) : Books :=
  ({ b with store := { b.store with
      slots := b.store.slots.set slot { entry with status := .leased }
      available := queue } }.take entry.resource).count .leased 1

/-- One call of the factory, begun and ended. -/
def callOnce (b : Books) (supply : Supply) : Books :=
  (b.tell .emergencyCreation).callFactory.2.endCall b.calls supply

/-- Makes a resource on the spot and leases it in a fresh slot. -/
def furnish (b : Books) : Supply → Acquisition × Books
  | .made =>
      let slot : SlotId := ⟨b.store.nextId⟩
      let lease : Lease := ⟨b.calls, some slot, b.store.generation⟩
      let called := (b.callOnce .made).countEmergency
      (.leased lease, ({ called with store := { b.store with
        nextId := b.store.nextId + 1
        slots := b.store.slots.set slot ⟨b.calls, b.store.generation, .leased⟩ } }.take
          b.calls).tell (.emergencyAdded slot))
  | .failed text =>
      (.failed (.factory text), (b.callOnce (.failed text)).count .factoryFailures 1)
  | .panicked text => (.panicked text, b.callOnce (.panicked text))

/-- Goes on with an acquisition that waits for its check or for the factory. -/
def attend (check : Check) (supply : Supply) : Acquisition × Books → Acquisition × Books
  | (.checking lease, b) => b.acquireChecked lease (check.verdict lease.resource)
  | (.creating generation call, b) => b.acquireSupplied generation call supply
  | ended => ended

/-! ## Turning slots down -/

theorem takeWhile_congr {p q : SlotId → Bool} {slots : List SlotId}
    (same : ∀ slot ∈ slots, p slot = q slot) : slots.takeWhile p = slots.takeWhile q := by
  induction slots with
  | nil => rfl
  | cons slot rest ih =>
      have later := ih fun other member => same other (List.mem_cons_of_mem _ member)
      rw [List.takeWhile_cons, List.takeWhile_cons, same slot List.mem_cons_self, later]

theorem spurns_eq_true_iff (found : b.store.slots.get? slot = some entry) :
    b.spurns check slot = true ↔
      b.checksOnAccess = true ∧ check.verdict entry.resource ≠ .sound := by
  simp only [spurns, found, Bool.and_eq_true, bne_iff_ne]

theorem failing_unchecked (unchecked : b.checksOnAccess = false) : b.failing check = [] := by
  unfold failing
  cases b.store.available.reverse with
  | nil => rfl
  | cons slot rest => simp [spurns, unchecked]

/-- The newest slot is known as available, and no older one is the same. -/
theorem newest_cases (sound : b.store.Sound) (concat : b.store.available = queue ++ [slot]) :
    (∃ entry, b.store.slots.get? slot = some entry ∧ entry.status = .available) ∧
      ∀ other ∈ queue, other ≠ slot := by
  have distinct := sound.queue_distinct
  rw [concat, List.nodup_append] at distinct
  exact ⟨sound.queued (show slot ∈ b.store.available by simp [concat]),
    fun other member => distinct.2.2 other member slot (List.mem_singleton_self slot)⟩

theorem reject_eq (sound : b.store.Sound) (concat : b.store.available = queue ++ [slot])
    (found : b.store.slots.get? slot = some entry) :
    b.reject slot = { b.tell (.erasing slot) with
      store := { b.store with slots := b.store.slots.erase slot, available := queue }
      counters := b.counters.record .evicted 1
      references := b.references.erase entry.resource } := by
  obtain ⟨⟨known, stored, status⟩, apart⟩ := newest_cases sound concat
  cases found.symm.trans stored
  have kept : queue.filter (· ≠ slot) = queue :=
    List.filter_eq_self.mpr fun other member => decide_eq_true (apart other member)
  have removed : b.store.remove slot = (some entry.resource,
      { b.store with slots := b.store.slots.erase slot, available := queue }) := by
    simp only [Store.remove, found, status, if_true, concat, List.filter_append, kept]
    simp
  have same : ((b.tell (.erasing slot)).count .evicted 1).store = b.store := rfl
  unfold reject remove
  rw [same, removed]
  rfl

theorem sound_reject (sound : b.store.Sound) (slot : SlotId) : (b.reject slot).store.Sound := by
  have removed : (b.reject slot).store = (b.store.remove slot).2 := store_remove _ slot
  rw [removed]
  exact sound.remove slot

theorem checksOnAccess_reject (b : Books) (slot : SlotId) :
    (b.reject slot).checksOnAccess = b.checksOnAccess := by
  unfold reject remove
  split <;> rfl

/-- Slots that stay in the queue are turned down as before. -/
theorem spurns_reject (sound : b.store.Sound) (concat : b.store.available = queue ++ [slot])
    {other : SlotId} (member : other ∈ queue) :
    (b.reject slot).spurns check other = b.spurns check other := by
  obtain ⟨⟨entry, found, _⟩, apart⟩ := newest_cases sound concat
  have checks := b.checksOnAccess_reject slot
  unfold spurns
  rw [checks, reject_eq sound concat found]
  simp only [Table.get?_erase_of_ne _ (apart other member).symm]

theorem failing_reject (sound : b.store.Sound) (concat : b.store.available = queue ++ [slot])
    (spurned : b.spurns check slot = true) :
    b.failing check = slot :: (b.reject slot).failing check := by
  obtain ⟨⟨entry, found, _⟩, _⟩ := newest_cases sound concat
  have rest : queue.reverse.takeWhile (b.spurns check) =
      queue.reverse.takeWhile ((b.reject slot).spurns check) :=
    takeWhile_congr fun other member =>
      (spurns_reject sound concat (List.mem_reverse.mp member)).symm
  have left : (b.reject slot).store.available = queue := by rw [reject_eq sound concat found]
  unfold failing
  rw [left, concat, List.reverse_append, List.reverse_singleton, List.singleton_append,
    List.takeWhile_cons, if_pos spurned, rest]

/-! ## What is left on the books -/

theorem record_evicted (counters : Counters) (first more : Nat) :
    (counters.record .evicted first).record .evicted more =
      counters.record .evicted (more + first) := by
  have counted (shown : Counters) (amount : Nat) : shown.record .evicted amount =
      { shown with evicted := shown.evicted + .ofNat amount } := rfl
  simp only [counted, UInt64.ofNat_add, UInt64.add_assoc, UInt64.add_comm (.ofNat first)]

/-- Turning down the newest slots leaves the older ones and the leased ones as they are. Each has
its event and its count. -/
theorem rejectAll_spec {slots : List SlotId} (sound : b.store.Sound)
    (concat : b.store.available = queue ++ slots.reverse) :
    (b.rejectAll slots).events = (slots.map Event.erasing).reverse ++ b.events ∧
    b.rejectAll slots = { b with
      store := { b.store with slots := b.store.slots.eraseAll slots, available := queue }
      counters := b.counters.record .evicted slots.length
      references := b.references.diff (slots.filterMap fun slot =>
        (b.store.slots.get? slot).map Slot.resource)
      journal := (b.rejectAll slots).journal } := by
  induction slots generalizing b with
  | nil =>
      have unmoved : b.counters.record .evicted 0 = b.counters := by
        simp [Counters.record, Counters.set, Counters.get]
      have left : b.store.available = queue := by simpa using concat
      refine ⟨rfl, ?_⟩
      simp only [rejectAll, List.foldl_nil, List.length_nil, unmoved, Table.eraseAll, ← left]
      rfl
  | cons slot rest ih =>
      rw [List.reverse_cons, ← List.append_assoc] at concat
      obtain ⟨⟨entry, found, _⟩, apart⟩ := newest_cases sound concat
      have first := reject_eq sound concat found
      have older : (b.reject slot).store.available = queue ++ rest.reverse := by rw [first]
      obtain ⟨events, erased⟩ := ih (sound_reject sound slot) older
      have later : b.rejectAll (slot :: rest) = (b.reject slot).rejectAll rest := rfl
      have known : rest.filterMap (fun other =>
            ((b.reject slot).store.slots.get? other).map Slot.resource) =
          rest.filterMap fun other => (b.store.slots.get? other).map Slot.resource := by
        refine List.filterMap_congr fun other member => ?_
        have waiting : other ∈ queue ++ rest.reverse := by simp [member]
        rw [first, Table.get?_erase_of_ne _ (apart other waiting).symm]
      constructor
      · have told : (b.reject slot).events = .erasing slot :: b.events := by
          rw [first]
          rfl
        rw [later, events, told]
        simp
      · rw [later, erased, known, List.filterMap_cons_some (by rw [found]; rfl), List.diff_cons]
        simp only [first, record_evicted, List.length_cons]
        rfl

/-- Making a resource calls the factory once. The store changes only if the call succeeds. -/
theorem furnish_spec (b : Books) (supply : Supply) :
    (b.furnish supply).2.calls = b.calls + 1 ∧
      (supply ≠ .made → (b.furnish supply).2.store = b.store) := by
  cases supply with
  | made => exact ⟨rfl, fun other => absurd rfl other⟩
  | failed text | panicked text => exact ⟨rfl, fun _ => rfl⟩

/-! ## The scan -/

/-- What an acquisition is to come to: it leases the newest slot that is not turned down, or it
makes a resource. -/
inductive Selects (check : Check) (supply : Supply) (b : Books) : Acquisition × Books → Prop
  | served {queue : List SlotId} {slot : SlotId} {entry : Slot Resource}
      (concat : b.store.available = queue ++ slot :: (b.failing check).reverse)
      (found : b.store.slots.get? slot = some entry)
      (passes : b.checksOnAccess = true → check entry.resource = .ok true) :
      Selects check supply b (.leased ⟨entry.resource, some slot, b.store.generation⟩,
        (b.rejectAll (b.failing check)).lend slot entry queue)
  | furnished (all : b.store.available = (b.failing check).reverse) :
      Selects check supply b ((b.rejectAll (b.failing check)).furnish supply)

/-- The queue is what stays in it and, behind that, what is turned down. -/
theorem available_scanned (check : Check) (b : Books) :
    ∃ kept, b.store.available = kept ++ (b.failing check).reverse := by
  refine ⟨(b.store.available.reverse.dropWhile (b.spurns check)).reverse, ?_⟩
  rw [← List.reverse_append]
  exact List.reverse_eq_iff.mp List.takeWhile_append_dropWhile.symm

/-- The factory is called only if every available slot was turned down, and then once. -/
theorem Selects.calls {outcome : Acquisition × Books} (sound : b.store.Sound)
    (selects : b.Selects check supply outcome) :
    ((b.failing check).length < b.store.available.length → outcome.2.calls = b.calls) ∧
    ((b.failing check).length = b.store.available.length →
      outcome.2.calls = b.calls + 1 ∧
      (supply ≠ .made → outcome.2.store = (b.rejectAll (b.failing check)).store) ∧
      ∀ text, supply = .failed text → outcome.1 = .failed (.factory text)) := by
  obtain ⟨kept, scanned⟩ := b.available_scanned check
  have erased := (rejectAll_spec sound scanned).2
  have calls : (b.rejectAll (b.failing check)).calls = b.calls := by rw [erased]
  cases selects with
  | served concat found passes =>
      constructor
      · intro some_left
        exact calls
      · intro none_left
        rw [concat] at none_left
        simp at none_left
        omega
  | furnished all =>
      obtain ⟨called, unchanged⟩ := (b.rejectAll (b.failing check)).furnish_spec supply
      constructor
      · intro some_left
        rw [all] at some_left
        simp at some_left
      · intro none_left
        refine ⟨called.trans (congrArg (· + 1) calls), unchanged, ?_⟩
        rintro text rfl
        rfl

theorem claim_newest (sound : b.store.Sound) (concat : b.store.available = queue ++ [slot])
    (found : b.store.slots.get? slot = some entry) :
    b.claim = (some ⟨entry.resource, some slot, b.store.generation⟩,
      { b with store := { b.store with
          slots := b.store.slots.set slot { entry with status := .leased }
          available := queue } }.take entry.resource) := by
  rcases sound.claim_cases with ⟨idle, _⟩ | ⟨older, id, known, newest, stored, _, claimed⟩
  · simp [idle] at concat
  · obtain ⟨rfl, same⟩ := List.append_inj' (newest.symm.trans concat) rfl
    cases same
    cases found.symm.trans stored
    simp only [claim, claimed]

theorem claim_idle (idle : b.store.available = []) : b.claim = (none, b) := by
  have nothing : b.store.claim = (none, b.store) := by
    simp only [Store.claim, idle, List.getLast?_nil]
  simp only [claim, nothing]

/-- A slot that is claimed and found wanting is gone as if it had been turned down in the queue:
its resource was referenced once more and is let go of twice. -/
theorem erase_claimed (sound : b.store.Sound) (concat : b.store.available = queue ++ [slot])
    (found : b.store.slots.get? slot = some entry) :
    b.claim.2.erase ⟨entry.resource, some slot, b.store.generation⟩ = b.reject slot := by
  let claimed : Store Resource := { b.store with
    slots := b.store.slots.set slot { entry with status := .leased }, available := queue }
  have removed : claimed.remove slot = (some entry.resource,
      { b.store with slots := b.store.slots.erase slot, available := queue }) := by
    simp only [Store.remove, claimed, Table.get?_set_self, Table.erase_set]
    rfl
  rw [claim_newest sound concat found, reject_eq sound concat found]
  simp only [erase, forget, remove]
  have same : ((({ b with store := claimed } : Books).take entry.resource).tell
      (.erasing slot) |>.count .evicted 1).store = claimed := rfl
  rw [same, removed]
  have letGo : (entry.resource :: b.references).erase entry.resource = b.references :=
    List.erase_cons_head ..
  simp only [Books.letGo, take, count, tell, offer, note, letGo]

theorem attend_spurned (sound : b.store.Sound) (concat : b.store.available = queue ++ [slot])
    (spurned : b.spurns check slot = true) :
    attend check supply b.acquire = (b.reject slot).acquire := by
  obtain ⟨⟨entry, found, _⟩, _⟩ := newest_cases sound concat
  obtain ⟨checked, condemned⟩ := (spurns_eq_true_iff found).mp spurned
  have erased := erase_claimed sound concat found
  have claimed := claim_newest sound concat found
  have acquired : b.acquire =
      (.checking ⟨entry.resource, some slot, b.store.generation⟩, b.claim.2) := by
    unfold acquire
    rw [claimed]
    exact if_pos checked
  rw [acquired, ← erased]
  cases verdict : check.verdict entry.resource with
  | sound => exact absurd verdict condemned
  | broken | failed => simp only [attend, verdict, acquireChecked]
  | panicked text =>
      unfold Check.verdict at verdict
      split at verdict <;> contradiction

theorem attend_passed (sound : b.store.Sound) (concat : b.store.available = queue ++ [slot])
    (found : b.store.slots.get? slot = some entry) (passed : b.spurns check slot = false) :
    attend check supply b.acquire = (.leased ⟨entry.resource, some slot, b.store.generation⟩,
      b.lend slot entry queue) := by
  have claimed := claim_newest sound concat found
  unfold acquire
  rw [claimed]
  by_cases checked : b.checksOnAccess = true
  · have sane : check.verdict entry.resource = .sound := by
      simpa [spurns, found, checked] using passed
    refine (congrArg (attend check supply) (if_pos checked)).trans ?_
    simp only [attend, sane]
    rfl
  · exact congrArg (attend check supply) (if_neg checked)

theorem admitEmergency_current (b : Books) (resource : Resource) :
    b.admitEmergency resource b.store.generation =
      (⟨resource, some ⟨b.store.nextId⟩, b.store.generation⟩,
        ({ b.countEmergency with store := (b.store.insert resource .leased).2 }.take resource).tell
          (.emergencyAdded ⟨b.store.nextId⟩)) := by
  simp only [admitEmergency_eq, Store.admitLeased, if_true]
  rfl

theorem attend_idle (idle : b.store.available = []) :
    attend check supply b.acquire = b.furnish supply := by
  unfold acquire
  rw [claim_idle idle]
  cases supply with
  | made =>
      have admitted := (b.callOnce .made).admitEmergency_current b.calls
      exact congrArg (fun lent : Lease × Books => (Acquisition.leased lent.1, lent.2)) admitted
  | failed text | panicked text => rfl

theorem Selects.of_reject {outcome : Acquisition × Books} (sound : b.store.Sound)
    (concat : b.store.available = queue ++ [slot]) (spurned : b.spurns check slot = true)
    (later : (b.reject slot).Selects check supply outcome) : b.Selects check supply outcome := by
  obtain ⟨⟨known, stored, _⟩, apart⟩ := newest_cases sound concat
  have first := reject_eq sound concat stored
  have left : (b.reject slot).store.available = queue := by rw [first]
  have failing := failing_reject sound concat spurned
  have all : (b.reject slot).rejectAll ((b.reject slot).failing check) =
      b.rejectAll (b.failing check) := by
    rw [failing]
    rfl
  cases later with
  | @served older newest entry rest found passes =>
      have member : newest ∈ queue := by
        rw [← left, rest]
        simp
      have kept : b.store.slots.get? newest = some entry := by
        rw [first] at found
        exact (Table.get?_erase_of_ne _ (apart newest member).symm).symm.trans found
      have generation : (b.reject slot).store.generation = b.store.generation := by rw [first]
      rw [all, generation]
      refine .served ?_ kept fun checked => passes ((checksOnAccess_reject b slot).trans checked)
      rw [concat, ← left, rest, failing]
      simp
  | furnished rest =>
      rw [all]
      refine .furnished ?_
      rw [concat, ← left, rest, failing]
      simp

theorem attend_furnish (b : Books) :
    attend check supply (b.furnish supply) = b.furnish supply := by
  cases supply with
  | made | failed | panicked => rfl

/-- An acquisition that nothing interferes with comes to what the scan selects, after one round
for each slot it turns down and one more. -/
theorem attended (supply : Supply) (sound : b.store.Sound) {rounds : Nat}
    (enough : (b.failing check).length < rounds) :
    b.Selects check supply ((attend check supply)^[rounds] b.acquire) := by
  induction rounds generalizing b with
  | zero => omega
  | succ rounds ih =>
      rw [Function.iterate_succ_apply]
      rcases List.eq_nil_or_concat' b.store.available with idle | ⟨queue, slot, concat⟩
      · have nothing : b.failing check = [] := by simp [failing, idle]
        have furnished : b.Selects check supply (b.furnish supply) := by
          have all : b.rejectAll (b.failing check) = b := by rw [nothing]; rfl
          have selected : b.Selects check supply
              ((b.rejectAll (b.failing check)).furnish supply) :=
            .furnished (by simp [idle, nothing])
          rwa [all] at selected
        rw [attend_idle idle, Function.iterate_fixed (attend_furnish b)]
        exact furnished
      · obtain ⟨⟨entry, found, _⟩, _⟩ := newest_cases sound concat
        cases spurned : b.spurns check slot with
        | true =>
            have failing := failing_reject sound concat spurned
            rw [failing, List.length_cons] at enough
            have later := ih (sound_reject sound slot) (Nat.lt_of_succ_lt_succ enough)
            rw [attend_spurned sound concat spurned]
            exact later.of_reject sound concat spurned
        | false =>
            have nothing : b.failing check = [] := by simp [failing, concat, spurned]
            have passes (checked : b.checksOnAccess = true) : check entry.resource = .ok true := by
              rw [← check.verdict_eq_sound_iff]
              simpa [spurns, found, checked] using spurned
            have scanned : b.store.available = queue ++ slot :: (b.failing check).reverse := by
              rw [nothing]
              exact concat
            have selected : b.Selects check supply
                (.leased ⟨entry.resource, some slot, b.store.generation⟩,
                  (b.rejectAll (b.failing check)).lend slot entry queue) :=
              .served scanned found passes
            rw [attend_passed sound concat found spurned, Function.iterate_fixed rfl]
            rwa [nothing] at selected

end Books
end ResourcePool
