import ResourcePool.Proofs.Holdings.System
import ResourcePool.Proofs.Upkeep.Postings

/-! The counters of a pool against its events and the answers of its calls. Two accounts are kept
of what is created, disposed of, discarded and cleared, and every step of every run moves them
together. -/
namespace ResourcePool

/-- Failures of the factory that a call ended with. -/
def Call.failures : Call → Nat
  | .finished (.failed failure) => failure.ofFactory
  | _ => 0

/-- The events that a transaction offers at a user's policy's wish. -/
def Transaction.volunteered (b : Books) : Transaction → List Event
  | .turned job _ signal => signal.volunteered { b with actor := some job }
  | _ => []

namespace System
variable {s t next u : System} {a : Action} {c : CallId} {call : Call} {transaction : Transaction}
variable {early late told : List Event} {kind : JobKind}

def Passage.volunteered (passage : Passage) : List Event :=
  passage.transaction.volunteered passage.before.books

/-- Gets that ended with a failure of the factory. -/
def failedGets (s : System) : Nat := s.calls.total Call.failures

/-- What a counter shows beyond the events and the failed gets that answer to it. -/
def surplus (s : System) (counter : Counter) : UInt64 :=
  s.books.surplus counter - counter.blamed s.failedGets

/-- Apart from some events the counters have moved as events and answers say. -/
def Trails (told : List Event) (s next : System) : Prop :=
  ∀ counter ∈ Counter.reported,
    next.surplus counter + .ofNat (posted counter told) = s.surplus counter

namespace Trails

theorem refl (s : System) : Trails [] s s := fun _ _ => UInt64.add_zero _

theorem trans (first : Trails early s t) (second : Trails late t next) :
    Trails (early ++ late) s next := by
  intro counter reported
  rw [← first counter reported, ← second counter reported, posted_append, UInt64.ofNat_add,
    UInt64.add_comm (.ofNat (posted counter early)), UInt64.add_assoc]

theorem andThen (first : Trails told s t) (second : Trails [] t u) :
    Trails told s u := by
  have both := first.trans second
  rwa [List.append_nil] at both

theorem of_books (trails : Books.Trails told s.books next.books) (calls : next.calls = s.calls) :
    Trails told s next := by
  intro counter reported
  have moved := trails counter reported
  simp only [surplus, failedGets, calls]
  rw [← moved]
  grind

theorem aside (books : next.books = s.books) (calls : next.calls = s.calls) : Trails [] s next :=
  of_books (books ▸ .refl s.books) calls

end Trails

/-! ## Calls -/

theorem failedGets_setCall (call : Call)
    (unfailed : (s.calls.get? c).elim 0 Call.failures = 0) :
    (s.setCall c call).failedGets = s.failedGets + call.failures := by
  obtain ⟨others, before, after⟩ := s.calls.total_set Call.failures c call
  rw [unfailed] at before
  simp only [failedGets, setCall, before, after]
  omega

/-- A call that is put on record is answered for by the books. -/
theorem Trails.recorded (unfailed : (s.calls.get? c).elim 0 Call.failures = 0)
    (books : ∀ counter ∈ Counter.reported, s.books.surplus counter = t.books.surplus counter +
      counter.blamed call.failures)
    (calls : s.calls = t.calls) : Trails [] t (s.setCall c call) := by
  intro counter reported
  have moved := books counter reported
  have failed := failedGets_setCall call unfailed
  have same : s.failedGets = t.failedGets := congrArg (Table.total Call.failures) calls
  have kept : (s.setCall c call).books = s.books := rfl
  simp only [surplus, kept, failed, same, moved, Counter.blamed_add]
  show _ + (0 : UInt64) = _
  grind

/-- A call that is put on record without a failure of the factory. -/
theorem Trails.recalled (unfailed : (s.calls.get? c).elim 0 Call.failures = 0)
    (spared : call.failures = 0) : Trails [] s (s.setCall c call) := by
  refine recorded unfailed (fun counter _ => ?_) rfl
  rw [spared, Counter.blamed_zero, UInt64.add_zero]

/-- An acquisition that is put on record answers for its failure. -/
theorem Trails.recordGet {books : Books} {fresh : Nat} {acquisition : Acquisition}
    (unfailed : (s.calls.get? c).elim 0 Call.failures = 0)
    (moved : ∀ counter ∈ Counter.reported, books.surplus counter = s.books.surplus counter +
      counter.blamed acquisition.failures) :
    Trails [] s (({ s with books, fresh } : System).recordGet c acquisition) := by
  cases acquisition with
  | leased lease =>
      let added := (({ s with books, fresh } : System).addLease lease).2
      have finished : Trails [] s (added.setCall c (.finished (.leased fresh))) :=
        recorded unfailed moved rfl
      exact finished
  | checking | creating | failed | panicked =>
      exact recorded (s := { s with books, fresh }) unfailed moved rfl

theorem Trails.recordInspection {books : Books} {fresh : Nat}
    (unfailed : (s.calls.get? c).elim 0 Call.failures = 0)
    (trails : Books.Trails [] s.books books) (inspecting : Inspecting) :
    Trails [] s (({ s with books, fresh } : System).recordInspection c inspecting) := by
  have moved : Trails [] s { s with books, fresh } := of_books trails rfl
  cases inspecting <;> exact moved.andThen (recalled unfailed rfl)

/-! ## Starting and stopping -/

theorem Trails.controlled {hires strikes : JobKind → Prop}
    (controls : Controls hires strikes s next) : Trails [] s next :=
  aside controls.aside.1 controls.housekeeping.calls

theorem Trails.unregister {job : JobId} (taken : s.unregister kind = some (job, t))
    (unfailed : (s.calls.get? c).elim 0 Call.failures = 0) (after : AfterJoin) :
    Trails [] s (t.setCall c (.joining job after)) := by
  have controls : Controls (fun _ => True) (fun _ => True) s t := .unregister trivial taken
  exact (controlled controls).andThen (recalled (controls.housekeeping.calls ▸ unfailed) rfl)

theorem Trails.spawn (present : s.present = true) (kind : JobKind)
    (unfailed : (s.calls.get? c).elim 0 Call.failures = 0) :
    Trails [] s ((s.spawn kind).finishCall c .done) := by
  have controls : Controls (fun _ => True) (fun _ => True) s (s.spawn kind) :=
    .spawn present trivial
  exact (controlled controls).andThen (recalled (controls.housekeeping.calls ▸ unfailed) rfl)

theorem Trails.stopEach (unfailed : (s.calls.get? c).elim 0 Call.failures = 0)
    (kinds : List JobKind) : Trails [] s (s.stopEach c kinds) := by
  obtain ⟨_, stopped⟩ | ⟨_, _, rest, job, next, _, _, taken, stopped⟩ := s.stopEach_cases c kinds
  · rw [stopped]
    exact recalled unfailed rfl
  · rw [stopped]
    exact unregister taken unfailed (.stop rest)

/-- No job is refused for a failure of the factory. -/
theorem refusesStart_spares {settings : Settings} {failure : Failure}
    (refused : refusesStart settings kind = some failure) : failure.ofFactory = 0 := by
  cases kind with
  | keeper | management =>
      simp only [refusesStart] at refused
      split at refused <;> cases refused
      rfl
  | health =>
      simp only [refusesStart] at refused
      split at refused
      · cases refused
        rfl
      · split at refused <;> cases refused
        rfl

theorem Trails.startJob (present : s.present = true)
    (unfailed : (s.calls.get? c).elim 0 Call.failures = 0) (kind : JobKind) :
    Trails [] s (s.startJob c kind) := by
  unfold System.startJob
  split
  · rename_i failure refused
    exact recalled unfailed (refusesStart_spares refused)
  · split
    · exact spawn present kind unfailed
    · rename_i job t taken
      exact unregister taken unfailed (.start kind)

theorem Trails.afterJoin (present : s.present = true)
    (unfailed : (s.calls.get? c).elim 0 Call.failures = 0) (panic : Option String)
    (after : AfterJoin) : Trails [] s (s.afterJoin c panic after) := by
  cases panic with
  | some text => exact recalled unfailed rfl
  | none =>
      cases after with
      | start kind => exact spawn present kind unfailed
      | stop rest => exact stopEach unfailed rest

/-! ## Actions -/

theorem Transacts.trails (orderly : s.Orderly) (transacts : s.Transacts a transaction next) :
    Trails (transaction.volunteered s.books) s next := by
  have even {books : Books} (trails : Books.Trails [] s.books books) {acquisition : Acquisition}
      (spared : acquisition.failures = 0) : ∀ counter ∈ Counter.reported,
      books.surplus counter = s.books.surplus counter + counter.blamed acquisition.failures := by
    intro counter reported
    rw [spared, Counter.blamed_zero, UInt64.add_zero, trails.same reported]
  cases transacts with
  | get present =>
      exact .recordGet (by rw [orderly.uncalled]; rfl)
        (even (.acquire s.books) s.books.acquire_spares)
  | tryGet =>
      refine .of_books ?_ ?_
      · rw [books_tryGet]
        exact .tryAcquire s.books
      · unfold callPool
        rcases s.books.tryAcquire with ⟨_ | lease, books⟩ <;> rfl
  | clear => exact .of_books (.clear s.books) rfl
  | dropped found =>
      refine .of_books ?_ rfl
      unfold dropLease
      split
      · exact .letGo s.books _
      · exact .release s.books _
  | detached found =>
      refine .of_books ?_ rfl
      unfold detachLease
      split
      · exact .refl s.books
      · exact .forget s.books _
  | @abandoned c l found =>
      have released : Trails [] s { s with books := s.books.release l } :=
        .of_books (.release s.books l) rfl
      exact released.andThen (.recalled (by rw [found]; rfl) rfl)
  | @checked c l verdict found =>
      exact .recordGet (by rw [found]; rfl)
        (even (.acquireChecked s.books l verdict) (s.books.acquireChecked_spares l verdict))
  | @supplied c generation call supply found =>
      exact .recordGet (by rw [found]; rfl) fun counter reported =>
        s.books.surplus_acquireSupplied generation call supply reported
  | @turned job j signal work found answered => exact .of_books (Job.turn_trails answered job) rfl

theorem Trails.cancel (found : s.calls.get? c = some call)
    (unchecked : ∀ lease, call ≠ .getting (.checking lease)) :
    Trails [] s (s.cancelCall c call) := by
  have given (waiting : call.failures = 0) : Trails [] s (s.setCall c .cancelled) :=
    recalled (by rw [found]; exact waiting) rfl
  cases call with
  | getting acquisition =>
      cases acquisition with
      | checking lease => exact False.elim (unchecked lease rfl)
      | leased | creating | failed | panicked => exact given rfl
  | inspecting i =>
      have left : Trails [] s { s with books := s.books.letGoAll i.members } :=
        of_books (.letGoAll s.books i.members) rfl
      exact left.andThen (recalled (congrArg (Option.elim · 0 Call.failures) found) rfl)
  | joining job after => exact given rfl
  | finished | cancelled => exact refl s

/-- What is no transaction concerns neither events nor failures of the factory. -/
theorem Trails.incidental (orderly : s.Orderly) (none : s.transaction? a = none) :
    Trails [] s (s.perform a) := by
  have begun : Trails [] s s.newId.2 := aside rfl rfl
  have unused : (s.newId.2.calls.get? s.fresh).elim 0 Call.failures = 0 := by
    rw [newId, orderly.uncalled]
    rfl
  have called (trails : s.present = true → Trails [] s (s.callPool a)) :
      Trails [] s (if s.present then s.callPool a else s) := by
    split
    · rename_i there
      exact trails there
    · exact refl s
  cases a with
  | get | tryGet | clear | dropLease | detach | supply | signal =>
      rw [perform_eq_self rfl none]
      exact refl s
  | hold id =>
      simp only [perform]
      split
      · exact of_books (.take s.books _) rfl
      · exact refl s
  | letGo id =>
      simp only [perform]
      split
      · exact of_books (.letGo s.books _) rfl
      · exact refl s
  | inspect order =>
      exact called fun _ =>
        recordInspection unused (.inspect s.books order) (s.books.inspect order).1
  | tune tuning => exact called fun _ => of_books (.aside rfl rfl) rfl
  | start kind =>
      exact called fun present =>
        begun.andThen (startJob (s := s.newId.2) present unused kind)
  | stop kind => exact called fun _ => begun.andThen (stopEach unused [kind])
  | stopAll => exact called fun _ => begun.andThen (stopEach unused JobKind.all)
  | dropPool =>
      refine called fun _ => ?_
      simp only [callPool, System.dropPool]
      split
      · exact refl s
      · rw [disableAll_eq]
        exact aside rfl rfl
  | cancel c =>
      simp only [perform]
      split
      · rename_i call found
        exact cancel found fun lease checking => by simp [transaction?, found, checking] at none
      · exact refl s
  | answer c verdict =>
      simp only [perform]
      split
      · rename_i lease found
        simp [transaction?, found] at none
      · rename_i i found
        exact recordInspection (by rw [found]; rfl) (.inspectChecked s.books i verdict)
          (s.books.inspectChecked i verdict).1
      · exact refl s
  | resume c =>
      simp only [perform]
      split
      · rename_i job after found
        split
        · exact afterJoin (orderly.present found rfl) (by rw [found]; rfl) _ after
        · exact refl s
      · exact refl s
  | pass ticks => exact of_books (.aside rfl rfl) rfl
  | setSink sink => exact of_books (.aside rfl rfl) rfl

theorem Trails.settle (s : System) : Trails [] s s.settle := by
  unfold System.settle
  split
  · exact of_books ((Books.Trails.letGoAll s.books _).next (.aside rfl rfl)) rfl
  · exact refl s

/-! ## Runs -/

theorem Trails.step (orderly : s.Orderly) (a : Action) :
    Trails ((s.passage? a).toList.flatMap Passage.volunteered) s (s.step a) := by
  unfold System.step passage?
  split
  · exact refl s
  · obtain ⟨transaction, same, transacts⟩ | ⟨none, _⟩ := perform_cases orderly a
    · rw [same]
      have trails := (transacts.trails orderly).andThen (settle (s.perform a))
      simpa [Passage.volunteered] using trails
    · rw [none]
      exact (incidental orderly none).andThen (settle (s.perform a))

theorem Trails.run (orderly : s.Orderly) (actions : List Action) :
    Trails ((s.passages actions).flatMap Passage.volunteered) s (s.run actions) := by
  induction actions generalizing s with
  | nil => exact refl s
  | cons a rest ih =>
      have first := step orderly a
      have later := ih (orderly.step a)
      rw [passages, List.flatMap_append]
      exact first.trans later

theorem surplus_ofSettings (id : Nat) (settings : Settings) (sink : Sink) (counter : Counter) :
    (ofSettings id settings sink).surplus counter = 0 := by
  have shown : (ofSettings id settings sink).books.counters.get counter = 0 := by
    cases counter <;> rfl
  have emergency : (ofSettings id settings sink).books.counters.emergencyCreated = 0 := rfl
  have failed : (ofSettings id settings sink).failedGets = 0 := rfl
  have events : (ofSettings id settings sink).books.events = [] := rfl
  rw [surplus, Books.surplus, shown, emergency, failed, events, ite_self, Counter.blamed_zero]
  have nothing : UInt64.ofNat (posted counter []) = 0 := rfl
  rw [nothing]
  simp

/-- What a counter shows after a run, by the events and the failed gets that answer to it, apart
from events that policies offered of their own. -/
theorem get_run (id : Nat) (settings : Settings) (sink : Sink) (actions : List Action)
    {counter : Counter} (reported : counter ∈ Counter.reported) :
    let start := ofSettings id settings sink
    let s := start.run actions
    let volunteered := (start.passages actions).flatMap Passage.volunteered
    s.books.counters.get counter =
      (if counter = .created then s.books.counters.emergencyCreated else 0) +
        (.ofNat (posted counter s.books.events) - .ofNat (posted counter volunteered)) +
          counter.blamed s.failedGets := by
  intro start s volunteered
  have trails : Trails volunteered start s := .run (orderly_ofSettings id settings sink) actions
  have moved := trails counter reported
  rw [surplus_ofSettings] at moved
  simp only [surplus, Books.surplus] at moved
  grind

end System

/-- Counters show what they are told; in two of them there is more than that, which is the emergency
creations and the failed gets. -/
structure Counters.Follow (counters : Counters) (told : Counter → UInt64) (failed : Nat) : Prop
    where
  clears : counters.clears = told .clears
  discarded : counters.discarded = told .discarded
  emergencyCreated : counters.emergencyCreated = told .emergencyCreated
  created : counters.created = counters.emergencyCreated + told .created
  disposed : counters.disposed = told .disposed
  factoryFailures : counters.factoryFailures = told .factoryFailures + .ofNat failed

theorem Counters.Follow.of_get {counters : Counters} {told : Counter → UInt64} {failed : Nat}
    (shown : ∀ counter ∈ Counter.reported, counters.get counter =
      (if counter = .created then counters.emergencyCreated else 0) + told counter +
        counter.blamed failed) : counters.Follow told failed := by
  have own (counter : Counter) (reported : counter ∈ Counter.reported)
      (other : counter ≠ .created) (spared : counter ≠ .factoryFailures) :
      counters.get counter = told counter := by
    rw [shown counter reported, if_neg other, Counter.blamed, if_neg spared, UInt64.add_zero,
      UInt64.zero_add]
  exact {
    clears := own .clears (by decide) (by decide) (by decide)
    discarded := own .discarded (by decide) (by decide) (by decide)
    emergencyCreated := own .emergencyCreated (by decide) (by decide) (by decide)
    created := (shown .created (by decide)).trans (UInt64.add_zero _)
    disposed := own .disposed (by decide) (by decide) (by decide)
    factoryFailures := (shown .factoryFailures (by decide)).trans
      (congrArg (· + _) (UInt64.zero_add _)) }

namespace System

/-- Counters agree with events in every run, modulo `2 ^ 64`, whatever the sink refuses and
whichever way the turns of callers, calls and jobs interleave: clearings, discarded returns and
emergency creations have an event each, what the keeper makes and disposes of is in the counts
of its events, and each failure of the factory is in an event or in the answer of a get. Events
that a policy of the user's offers of its own are set apart. -/
theorem counters_follow_events (id : Nat) (settings : Settings) (sink : Sink)
    (actions : List Action) :
    let start := ofSettings id settings sink
    let s := start.run actions
    let volunteered := (start.passages actions).flatMap Passage.volunteered
    s.books.counters.Follow
      (fun counter => .ofNat (posted counter s.books.events) - .ofNat (posted counter volunteered))
      s.failedGets :=
  .of_get fun _ reported => get_run id settings sink actions reported

/-- A policy may offer the event of a clearing that there never was. -/
theorem clears_volunteered :
    let s := (ofSettings 1 { policy := some (.custom "p") } .accepting).run
      [.start .management, .signal 1 .run, .signal 1 (.tick [.log (.cleared 0 0)] .done)]
    s.books.counters.clears = 0 ∧ posted .clears s.books.events = 1 := by
  decide +kernel

/-- As long as policies offer nothing that counters answer to, there is nothing to set apart. -/
theorem counters_follow (id : Nat) (settings : Settings) (sink : Sink) (actions : List Action)
    (plain : ∀ passage ∈ (ofSettings id settings sink).passages actions,
      ∀ event ∈ passage.volunteered, event.posting? = none) :
    let s := (ofSettings id settings sink).run actions
    s.books.counters.Follow (fun counter => .ofNat (posted counter s.books.events))
      s.failedGets := by
  intro s
  refine .of_get fun counter reported => ?_
  have none : posted counter
      (((ofSettings id settings sink).passages actions).flatMap Passage.volunteered) = 0 := by
    refine List.sum_eq_zero (List.forall_mem_map.mpr fun event member => ?_)
    obtain ⟨passage, there, offered⟩ := List.mem_flatMap.mp member
    exact Event.amount_of_none (plain passage there event offered) counter
  have shown := get_run id settings sink actions reported
  simp only [none] at shown
  rw [shown]
  show _ + (_ - (0 : UInt64)) + _ = _
  rw [UInt64.sub_zero]

/-- An emergency creation, a failed get, a clearing and a return that comes too late. -/
example :
    let s := (ofSettings 1 {} .accepting).run
      [.get, .supply 0 .made, .get, .supply 2 (.failed "down"), .clear, .dropLease 1]
    let counters := s.books.counters
    (counters.clears, counters.discarded, counters.emergencyCreated, counters.created,
        counters.factoryFailures) = (1, 1, 1, 1, 1) ∧
      [Counter.clears, .discarded, .emergencyCreated, .created, .factoryFailures].map
        (posted · s.books.events) = [1, 1, 1, 0, 0] ∧
      s.failedGets = 1 := by
  decide +kernel

end System
end ResourcePool
