import Mathlib.Algebra.Ring.Nat
import ResourcePool.Proofs.Books.Counting

/-! Counters against events. Each event that tells of something counted answers to one counter; an
operation that moves such a counter tells of it, so that what the counters show beyond the events
stays the same. -/
namespace ResourcePool

namespace Event

/-- The counter that an event answers to, and by how much. -/
def posting? : Event → Option (Counter × Nat)
  | .cleared .. => some (.clears, 1)
  | .returnDiscarded _ => some (.discarded, 1)
  | .emergencyAdded _ | .emergencySkipped => some (.emergencyCreated, 1)
  | .added count | .additionSkipped count => some (.created, count)
  | .disposing count => some (.disposed, count)
  | .creationFailed .. => some (.factoryFailures, 1)
  | _ => none

def amount (counter : Counter) (event : Event) : Nat :=
  (event.posting?.filter (·.1 = counter)).elim 0 Prod.snd

theorem amount_of_none {event : Event} (quiet : event.posting? = none) (counter : Counter) :
    event.amount counter = 0 := by
  rw [amount, quiet]
  rfl

theorem amount_of_some {event : Event} {own : Counter} {count : Nat}
    (posting : event.posting? = some (own, count)) (counter : Counter) :
    event.amount counter = if own = counter then count else 0 := by
  rw [amount, posting]
  by_cases same : own = counter <;> simp [same, Option.filter]

end Event

/-- The counters that events answer to. -/
def Counter.reported : List Counter :=
  [.clears, .discarded, .emergencyCreated, .created, .disposed, .factoryFailures]

/-- What some events add up to for a counter. -/
def posted (counter : Counter) (events : List Event) : Nat :=
  (events.map (Event.amount counter)).sum

theorem posted_append (counter : Counter) (early late : List Event) :
    posted counter (early ++ late) = posted counter early + posted counter late := by
  simp only [posted, List.map_append, List.sum_append]

/-- No event answers to the last reading. -/
theorem Event.lifetime_of_posting {event : Event} {own : Counter} {count : Nat}
    (posting : event.posting? = some (own, count)) : own ≠ .unhealthy := by
  cases event <;> cases posting <;> decide

/-- Whether the factory is to blame, as a number. -/
def Failure.ofFactory : Failure → Nat
  | .factory _ | .factoryOn _ => 1
  | _ => 0

/-- Failures of the factory that an acquisition ends with. -/
def Acquisition.failures : Acquisition → Nat
  | .failed failure => failure.ofFactory
  | _ => 0

/-- The part of a counter that stands for failures of the factory that callers were told of. -/
def Counter.blamed (counter : Counter) (failures : Nat) : UInt64 :=
  if counter = .factoryFailures then .ofNat failures else 0

namespace Counter

@[simp] theorem blamed_zero (counter : Counter) : counter.blamed 0 = 0 := ite_self _

theorem blamed_add (counter : Counter) (early late : Nat) :
    counter.blamed (early + late) = counter.blamed early + counter.blamed late := by
  unfold blamed
  split
  · exact UInt64.ofNat_add ..
  · rfl

end Counter

def Report.event? : Report → Option Event
  | .event offered _ => some offered
  | _ => none

namespace Books
variable {b before middle after : Books} {counter : Counter} {event : Event}
variable {early late : List Event}

/-- All events that were offered to the sink, the newest first. -/
def events (b : Books) : List Event := b.journal.filterMap (·.report.event?)

/-- What a counter shows beyond the events that answer to it. Creations of the keeper's have events
of their own; what was made in an emergency is counted twice. -/
def surplus (b : Books) (counter : Counter) : UInt64 :=
  b.counters.get counter - (if counter = .created then b.counters.emergencyCreated else 0) -
    .ofNat (posted counter b.events)

/-- Apart from some events the counters have moved as the events say. -/
def Trails (told : List Event) (before after : Books) : Prop :=
  ∀ counter ∈ Counter.reported,
    after.surplus counter + .ofNat (posted counter told) = before.surplus counter

theorem surplus_tell (b : Books) (event : Event) (counter : Counter) :
    (b.tell event).surplus counter = b.surplus counter - .ofNat (event.amount counter) := by
  have grown : posted counter (b.tell event).events =
      event.amount counter + posted counter b.events := rfl
  have same : (b.tell event).counters = b.counters := rfl
  unfold surplus
  rw [grown, same, UInt64.ofNat_add]
  grind

theorem surplus_count {moved : Counter} (lifetime : moved ≠ .unhealthy) (b : Books) (amount : Nat)
    (counter : Counter) :
    (b.count moved amount).surplus counter =
      b.surplus counter + (if moved = counter then .ofNat amount else 0) -
        (if counter = .created ∧ moved = .emergencyCreated then .ofNat amount else 0) := by
  have shown := get_count lifetime b amount
  have emergency : (b.count moved amount).counters.emergencyCreated =
      if moved = .emergencyCreated then b.counters.emergencyCreated + .ofNat amount
      else b.counters.emergencyCreated := shown .emergencyCreated
  have same : (b.count moved amount).events = b.events := rfl
  unfold surplus
  rw [same, shown, emergency]
  by_cases creation : counter = .created
  · subst creation
    cases moved <;> simp <;> grind
  · simp only [creation, if_false, false_and]
    split <;> grind

namespace Trails

theorem aside (counters : after.counters = before.counters)
    (events : after.events = before.events) : Trails [] before after := by
  intro counter _
  rw [surplus, surplus, counters, events]
  exact UInt64.add_zero _

theorem refl (b : Books) : Trails [] b b := aside rfl rfl

theorem same (trails : Trails [] before after) (reported : counter ∈ Counter.reported) :
    after.surplus counter = before.surplus counter :=
  (UInt64.add_zero _).symm.trans (trails counter reported)

theorem trans (first : Trails early before middle) (second : Trails late middle after) :
    Trails (early ++ late) before after := by
  intro counter reported
  rw [← first counter reported, ← second counter reported, posted_append, UInt64.ofNat_add,
    UInt64.add_comm (.ofNat (posted counter early)), UInt64.add_assoc]

/-- Changes that the counters follow may come after others. -/
theorem next (first : Trails early before middle) (second : Trails [] middle after) :
    Trails early before after := by
  have both := first.trans second
  rwa [List.append_nil] at both

theorem note (b : Books) {report : Report} (other : report.event? = none) :
    Trails [] b (b.note report) :=
  aside rfl (List.filterMap_cons_none other)

/-- An event that is reported without being counted. -/
theorem tell (b : Books) (event : Event) : Trails [event] b (b.tell event) := by
  intro counter _
  rw [surplus_tell]
  show _ - _ + UInt64.ofNat (event.amount counter + 0) = _
  rw [Nat.add_zero]
  grind

theorem quiet (b : Books) (silent : event.posting? = none) : Trails [] b (b.tell event) := by
  intro counter _
  rw [surplus_tell, Event.amount_of_none silent]
  exact (UInt64.add_zero _).trans (UInt64.sub_zero ..)

theorem count (b : Books) (moved : Counter) (amount : Nat)
    (apart : moved ∉ Counter.reported) : Trails [] b (b.count moved amount) := by
  intro counter reported
  by_cases last : moved = .unhealthy
  · subst last
    cases counter <;> first | rfl | simp [Counter.reported] at reported
    all_goals exact UInt64.add_zero _
  · rw [surplus_count last, if_neg, if_neg]
    · show _ + 0 - 0 + (0 : UInt64) = _
      grind
    · rintro ⟨rfl, rfl⟩
      exact apart (by decide)
    · rintro rfl
      exact apart reported

theorem congr {other : List Event} (trails : Trails late before after)
    (same : ∀ counter, posted counter other = posted counter late) : Trails other before after := by
  intro counter reported
  rw [same]
  exact trails counter reported

/-- An amount that is counted ahead of its event. -/
theorem ahead {own : Counter} {amount : Nat} (b : Books)
    (posting : event.posting? = some (own, amount)) (other : own ≠ .emergencyCreated) :
    Trails [event] (b.count own amount) b := by
  intro counter _
  rw [surplus_count (Event.lifetime_of_posting posting),
    if_neg fun both : counter = .created ∧ own = .emergencyCreated => other both.2]
  show _ + UInt64.ofNat (event.amount counter + 0) = _ + _ - 0
  rw [Nat.add_zero, Event.amount_of_some posting, apply_ite UInt64.ofNat]
  grind

/-- The event of what was counted ahead of it. -/
theorem meet (counted : Trails early middle before) (told : Trails early middle after) :
    Trails [] before after := by
  intro counter reported
  have even := (told counter reported).trans (counted counter reported).symm
  exact (UInt64.add_zero _).trans ((UInt64.add_left_inj _).mp even)

theorem take (b : Books) (resource : Resource) : Trails [] b (b.take resource) := aside rfl rfl

theorem letGo (b : Books) (resource : Resource) : Trails [] b (b.letGo resource) := aside rfl rfl

theorem takeAll (b : Books) (resources : List Resource) :
    Trails [] b (b.takeAll resources) := by
  induction resources generalizing b with
  | nil => exact refl b
  | cons resource rest ih => exact (take b resource).next (ih (b.take resource))

theorem letGoAll (b : Books) (resources : List Resource) :
    Trails [] b (b.letGoAll resources) := by
  induction resources generalizing b with
  | nil => exact refl b
  | cons resource rest ih => exact (letGo b resource).next (ih (b.letGo resource))

end Trails

/-! ## Operations of callers -/

theorem Trails.clear (b : Books) : Trails [] b b.clear := by
  have emptied : Trails [] b { b with store := b.store.clear.2 } := aside rfl rfl
  have event : Event.posting? (.cleared b.store.clear.2.generation b.store.clear.1.length) =
      some (.clears, 1) := rfl
  have counted := ahead { b with store := b.store.clear.2 } event (by decide)
  exact (emptied.next (counted.meet (tell _ _))).next (letGoAll _ _)

theorem Trails.release (b : Books) (lease : Lease) : Trails [] b (b.release lease) := by
  obtain ⟨store, recycled | discarded⟩ := b.release_cases lease
  · have handed : Trails [] b { b with store } := aside rfl rfl
    rw [recycled]
    exact (handed.next (count _ .returned 1 (by decide))).next (letGo _ _)
  · have handed : Trails [] b { b with store } := aside rfl rfl
    have event : Event.posting? (.returnDiscarded lease.slot) = some (.discarded, 1) := rfl
    have counted := ahead { b with store } event (by decide)
    rw [discarded]
    exact (handed.next (counted.meet (tell _ _))).next (letGo _ _)

theorem Trails.remove (b : Books) (slot : SlotId) : Trails [] b (b.remove slot).2 := by
  unfold Books.remove
  rcases b.store.remove slot with ⟨_ | resource, store⟩
  · exact refl b
  · exact aside rfl rfl

theorem Trails.forget (b : Books) (lease : Lease) : Trails [] b (b.forget lease) := by
  unfold Books.forget
  split
  · exact remove b _
  · exact refl b

theorem Trails.erase (b : Books) (lease : Lease) : Trails [] b (b.erase lease) := by
  have erased {told : Books} (trails : Trails [] b told) :
      Trails [] b (((told.count .evicted 1).forget lease).letGo lease.resource) :=
    ((trails.next (count _ .evicted 1 (by decide))).next (forget _ lease)).next (letGo _ _)
  refine erased ?_
  cases lease.slot with
  | none => exact refl b
  | some slot => exact quiet b rfl

theorem Trails.claim (b : Books) : Trails [] b b.claim.2 := by
  unfold Books.claim
  rcases b.store.claim with ⟨_ | claim, store⟩ <;> exact aside rfl rfl

theorem Trails.callFactory (b : Books) : Trails [] b b.callFactory.2 := by
  have begun : Trails [] b { b with calls := b.calls + 1 } := aside rfl rfl
  exact begun.next (note _ rfl)

theorem Trails.endCall (b : Books) (call : Resource) (supply : Supply) :
    Trails [] b (b.endCall call supply) := by
  have noted : Trails [] b (b.note (.factoryEnded call supply)) := note b rfl
  cases supply with
  | made => exact noted.next (take _ _)
  | failed | panicked => exact noted

theorem Trails.acquire (b : Books) : Trails [] b b.acquire.2 := by
  have claimed := claim b
  unfold Books.acquire
  rcases taken : b.claim with ⟨_ | lease, next⟩ <;> rw [taken] at claimed
  · exact (claimed.next (quiet _ rfl)).next (callFactory _)
  · simp only
    split
    · exact claimed
    · exact claimed.next (count _ .leased 1 (by decide))

theorem Trails.tryAcquire (b : Books) : Trails [] b b.tryAcquire.2 := by
  have claimed := claim b
  unfold Books.tryAcquire
  rcases taken : b.claim with ⟨_ | lease, next⟩ <;> rw [taken] at claimed
  · exact claimed
  · exact claimed.next (count _ .leased 1 (by decide))

theorem Trails.acquireChecked (b : Books) (lease : Lease) (verdict : Verdict) :
    Trails [] b (b.acquireChecked lease verdict).2 := by
  cases verdict with
  | sound => exact count b .leased 1 (by decide)
  | broken | failed => exact (erase b lease).next (acquire _)
  | panicked => exact release b lease

theorem acquire_spares (b : Books) : b.acquire.1.failures = 0 := by
  unfold Books.acquire
  rcases b.claim with ⟨_ | lease, next⟩
  · rfl
  · simp only
    split <;> rfl

theorem acquireChecked_spares (b : Books) (lease : Lease) (verdict : Verdict) :
    (b.acquireChecked lease verdict).1.failures = 0 := by
  cases verdict with
  | sound | panicked => rfl
  | broken | failed => exact acquire_spares _

/-- A creation in an emergency is counted as one and as a creation, ahead of its event. -/
theorem Trails.countEmergency (b : Books) (posting : event.posting? = some (.emergencyCreated, 1)) :
    Trails [event] b.countEmergency b := by
  intro counter reported
  have shown : b.countEmergency.surplus counter =
      ((b.count .created 1).count .emergencyCreated 1).surplus counter :=
    (count _ .leased 1 (by decide)).same reported
  rw [shown, surplus_count (by decide), surplus_count (by decide)]
  show _ + UInt64.ofNat (event.amount counter + 0) = _
  rw [Nat.add_zero, Event.amount_of_some posting, apply_ite UInt64.ofNat]
  by_cases creation : counter = .created
  · subst creation
    simp
  · by_cases emergency : Counter.emergencyCreated = counter <;>
      simp [creation, Ne.symm creation, emergency]

theorem Trails.admitEmergency (b : Books) (resource : Resource) (generation : Nat) :
    Trails [] b (b.admitEmergency resource generation).2 := by
  rw [admitEmergency_eq]
  rcases b.store.admitLeased resource generation with ⟨_ | slot, store⟩
  · exact (countEmergency b rfl).meet (tell _ _)
  · have admitted : Trails [] b.countEmergency
        (({ b.countEmergency with store } : Books).take resource) := aside rfl rfl
    exact (countEmergency b rfl).meet (admitted.trans (tell _ (.emergencyAdded slot)))

/-- A failure of the factory that a caller is told of has no event. -/
theorem surplus_acquireSupplied (b : Books) (generation : Nat) (call : Resource) (supply : Supply)
    (reported : counter ∈ Counter.reported) :
    (b.acquireSupplied generation call supply).2.surplus counter = b.surplus counter +
      counter.blamed (b.acquireSupplied generation call supply).1.failures := by
  have ended := (Trails.endCall b call supply).same reported
  cases supply with
  | made =>
      have admitted := (Trails.admitEmergency (b.endCall call .made) call generation).same reported
      have spared : (b.acquireSupplied generation call .made).1.failures = 0 := rfl
      rw [spared, Counter.blamed_zero, UInt64.add_zero]
      exact admitted.trans ended
  | panicked text =>
      have spared : (b.acquireSupplied generation call (.panicked text)).1.failures = 0 := rfl
      rw [spared, Counter.blamed_zero, UInt64.add_zero]
      exact ended
  | failed text =>
      have counted := surplus_count (by decide : Counter.factoryFailures ≠ .unhealthy)
        (b.endCall call (.failed text)) 1 counter
      rw [if_neg (by simp : ¬ (counter = .created ∧ _)), ended] at counted
      simp only [eq_comm (a := Counter.factoryFailures)] at counted
      exact counted.trans (UInt64.sub_zero ..)

theorem Trails.inspectNext (b : Books) (i : Inspection) : Trails [] b (b.inspectNext i).2 := by
  unfold Books.inspectNext
  split
  · exact refl b
  · exact (letGoAll b _).next (count _ .unhealthy _ (by decide))

theorem Trails.inspect (b : Books) (order : List Resource) : Trails [] b (b.inspect order).2 :=
  (takeAll b _).next (inspectNext _ _)

theorem Trails.inspectChecked (b : Books) (i : Inspection) (verdict : Verdict) :
    Trails [] b (b.inspectChecked i verdict).2 := by
  cases verdict with
  | sound | broken | failed => exact inspectNext b _
  | panicked => exact letGoAll b _

end Books
end ResourcePool
