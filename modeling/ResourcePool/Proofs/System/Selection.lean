import ResourcePool.Proofs.Books.Reports
import ResourcePool.Proofs.Books.Selection
import ResourcePool.Proofs.System.Run

/-! A get during which nothing else happens: its checks and its factory call are answered in turn
until it is over. -/
namespace ResourcePool.System

variable {check : Check} {supply : Supply} {s : System} {c : CallId}

/-- Answers what a call for a lease waits for, if it waits. -/
def attend (check : Check) (supply : Supply) (c : CallId) (s : System) : System :=
  match s.calls.get? c with
  | some (.getting (.checking lease)) => s.step (.answer c (check.verdict lease.resource))
  | some (.getting (.creating ..)) => s.step (.supply c supply)
  | _ => s

/-- A pool with an acquisition on record, and with the books it left. -/
def granted (s : System) (c : CallId) (outcome : Acquisition × Books) : System :=
  { s with books := outcome.2 }.recordGet c outcome.1

theorem settle_present (present : s.present = true) : s.settle = s := by
  simp only [settle, present]
  rfl

theorem recordGet_setCall (s : System) (c : CallId) (call : Call) (acquisition : Acquisition) :
    (s.setCall c call).recordGet c acquisition = s.recordGet c acquisition := by
  cases acquisition <;>
    simp only [recordGet, addLease, newId, finishCall, setCall, Table.set_set]

/-- A step by which a waiting acquisition goes on puts it on record as far as it got then. -/
theorem step_granted {a : Action} {waiting : Acquisition} {books : Books}
    {next : Acquisition × Books} (present : s.present = true) (running : books.terminated = false)
    (performed : (({ s with books } : System).setCall c (.getting waiting)).perform a =
      (({ s with books := next.2 } : System).setCall c (.getting waiting)).recordGet c next.1) :
    (({ s with books } : System).setCall c (.getting waiting)).step a = s.granted c next := by
  have up : (({ s with books } : System).setCall c (.getting waiting)).books.terminated = false :=
    running
  have kept : (s.granted c next).present = true := (present_recordGet ..).trans present
  simp only [step, up, performed, recordGet_setCall]
  exact settle_present kept

theorem step_get (present : s.present = true) (running : s.books.terminated = false) :
    s.step .get =
      ({ s with fresh := s.fresh + 1 } : System).granted s.fresh s.books.acquire := by
  have kept : (({ s with fresh := s.fresh + 1 } : System).granted s.fresh
      s.books.acquire).present = true := (present_recordGet ..).trans present
  have performed : s.perform .get =
      ({ s with fresh := s.fresh + 1 } : System).granted s.fresh s.books.acquire := if_pos present
  simp only [step, running, performed]
  exact settle_present kept

/-- Attending a call goes on with its acquisition. -/
theorem attend_granted (present : s.present = true) (outcome : Acquisition × Books)
    (running : outcome.2.terminated = false) :
    (s.granted c outcome).attend check supply c =
      s.granted c (Books.attend check supply outcome) := by
  obtain ⟨acquisition, books⟩ := outcome
  have recorded (t : System) (call : Call) : (t.setCall c call).calls.get? c = some call :=
    Table.get?_set_self ..
  have finished (t : System) (outcome : Outcome) :
      (t.finishCall c outcome).attend check supply c = t.finishCall c outcome := by
    simp only [attend, finishCall, recorded]
  cases acquisition with
  | checking lease =>
      have waits := recorded { s with books } (.getting (.checking lease))
      have attended : (s.granted c (.checking lease, books)).attend check supply c =
          (({ s with books } : System).setCall c (.getting (.checking lease))).step
            (.answer c (check.verdict lease.resource)) := by
        simp only [attend, granted, recordGet, waits]
      rw [attended]
      apply step_granted present running
      simp only [perform, waits, Books.attend]
      rfl
  | creating generation call =>
      have waits := recorded { s with books } (.getting (.creating generation call))
      have attended : (s.granted c (.creating generation call, books)).attend check supply c =
          (({ s with books } : System).setCall c (.getting (.creating generation call))).step
            (.supply c supply) := by
        simp only [attend, granted, recordGet, waits]
      rw [attended]
      apply step_granted present running
      simp only [perform, waits, Books.attend]
      rfl
  | leased lease => exact finished _ _
  | failed failure => exact finished _ _
  | panicked text => exact finished _ _

theorem terminated_attend (outcome : Acquisition × Books) :
    (Books.attend check supply outcome).2.terminated = outcome.2.terminated := by
  obtain ⟨acquisition, books⟩ := outcome
  cases acquisition with
  | checking lease => exact (Books.Routine.acquireChecked _ _ _).terminated
  | creating generation call => exact (Books.Routine.acquireSupplied _ _ _ _).terminated
  | leased | failed | panicked => rfl

theorem attended_granted (present : s.present = true) (rounds : Nat) (outcome : Acquisition × Books)
    (running : outcome.2.terminated = false) :
    (attend check supply c)^[rounds] (s.granted c outcome) =
      s.granted c ((Books.attend check supply)^[rounds] outcome) := by
  induction rounds generalizing outcome with
  | zero => rfl
  | succ rounds ih =>
      rw [Function.iterate_succ_apply, Function.iterate_succ_apply,
        attend_granted present outcome running]
      exact ih _ ((terminated_attend outcome).trans running)

/-- What a get comes to on a pool in any state, whatever the checks say and however the factory
ends, if nothing else happens meanwhile. It takes exactly those slots off the books, the newest
first, that come before the first whose resource passes, with an event and a count each. It leases
that one without calling the factory; where there is none it calls the factory once. It takes one
round more than slots are turned down. -/
theorem get_selects (id : Nat) (settings : Settings) (sink : Sink) (actions : List Action)
    (check : Check) (supply : Supply) (rounds : Nat) :
    let s := (ofSettings id settings sink).run actions
    let b := s.books
    let failing := b.failing check
    let erased := b.rejectAll failing
    let after := (attend check supply s.fresh)^[rounds] (s.step .get)
    s.present = true → b.terminated = false → failing.length < rounds →
    failing.length ≤ b.store.available.length ∧
    (b.checksOnAccess = false → failing = []) ∧
    (∃ kept, b.store.available = kept ++ failing.reverse ∧
      erased.events = (failing.map Event.erasing).reverse ++ b.events ∧
      erased = { b with
        store := { b.store with slots := b.store.slots.eraseAll failing, available := kept }
        counters := b.counters.record .evicted failing.length
        references := b.references.diff (failing.filterMap fun slot =>
          (b.store.slots.get? slot).map Slot.resource)
        journal := erased.journal }) ∧
    ∃ outcome, b.Selects check supply outcome ∧
      after = ({ s with fresh := s.fresh + 1 } : System).granted s.fresh outcome ∧
      (failing.length < b.store.available.length → outcome.2.calls = b.calls) ∧
      (failing.length = b.store.available.length → outcome.2.calls = b.calls + 1 ∧
        (supply ≠ .made → outcome.2.store = erased.store) ∧
        ∀ text, supply = .failed text →
          after.calls.get? s.fresh = some (.finished (.failed (.factory text)))) := by
  intro s b failing erased after present running enough
  have sound : b.store.Sound := ((orderly_ofSettings id settings sink).run actions).custody.sound
  obtain ⟨kept, concat⟩ := b.available_scanned check
  have selects := Books.attended supply sound enough
  obtain ⟨served, furnished⟩ := selects.calls sound
  have granted : after = ({ s with fresh := s.fresh + 1 } : System).granted s.fresh
      ((Books.attend check supply)^[rounds] b.acquire) := by
    have acquired : b.acquire.2.terminated = false :=
      (Books.Routine.acquire b).terminated.trans running
    have begun := step_get present running
    exact (congrArg _ begun).trans
      (attended_granted (s := { s with fresh := s.fresh + 1 }) present rounds b.acquire acquired)
  refine ⟨?_, Books.failing_unchecked, ⟨kept, concat, Books.rejectAll_spec sound concat⟩, _,
    selects, granted, served, ?_⟩
  · simp [concat, failing]
  · intro none_left
    obtain ⟨called, unchanged, refused⟩ := furnished none_left
    refine ⟨called, unchanged, ?_⟩
    intro text failed
    rw [granted, System.granted, refused text failed]
    exact Table.get?_set_self ..

/-- The newest slot is turned down, and the one before it is leased in the second round. -/
theorem get_selects_second :
    let check : Check := fun resource => if resource = 1 then .ok false else .ok true
    let s := (ofSettings 1 { hasCheck := true, checkOnAccess := true } .accepting).run
      [.get, .supply 0 .made, .get, .supply 2 .made, .dropLease 1, .dropLease 3]
    let after := (attend check .made 4)^[2] (s.step .get)
    s.books.store.available = [⟨0⟩, ⟨1⟩] ∧
      ∃ outcome, s.books.Selects check .made outcome ∧ outcome.2.calls = 2 ∧
        after = ({ s with fresh := 5 } : System).granted 4 outcome := by
  obtain ⟨_, _, _, outcome, selects, granted, served, _⟩ :=
    get_selects 1 { hasCheck := true, checkOnAccess := true } .accepting
      [.get, .supply 0 .made, .get, .supply 2 .made, .dropLease 1, .dropLease 3]
      (fun resource => if resource = 1 then .ok false else .ok true) .made 2
      (by decide) (by decide) (by decide)
  exact ⟨by decide, outcome, selects, served (by decide), granted⟩

end ResourcePool.System
