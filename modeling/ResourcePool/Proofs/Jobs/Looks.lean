import ResourcePool.Proofs.Address
import ResourcePool.Proofs.Jobs.Turns
import ResourcePool.Proofs.Upkeep.Counting

/-! A look at the addresses of a host: the turn in which a watching policy hears of a resolution.
It clears the pool exactly if other addresses were found and the sink hears of it. -/
namespace ResourcePool
open Address (Ordered)

/-- Whether a report tells of changed addresses. -/
def Report.isChange : Report → Bool
  | .event (.addressesChanged ..) _ => true
  | _ => false

theorem Report.isChange_of_isRoutine {report : Report} (routine : report.isRoutine = true) :
    report.isChange = false := by
  cases report with
  | event e =>
      cases e with
      | addressesChanged => contradiction
      | _ => rfl
  | _ => rfl

namespace Books
variable {b before middle after : Books} {told : List Report}

/-- The changes of addresses that somebody reported, the newest first. -/
def changesOf (b : Books) (who : Option JobId) : List Report :=
  (b.reportsOf who).filter Report.isChange

theorem Adds.changesOf (adds : Adds told before after)
    (quiet : ∀ report ∈ told, report.isChange = false) (who : Option JobId) :
    after.changesOf who = before.changesOf who := by
  unfold Books.changesOf
  rw [adds.reports, List.filter_append, List.filter_eq_nil_iff.mpr, List.nil_append]
  intro report member
  split at member
  · simp [quiet report member]
  · contradiction

theorem Routine.changesOf (routine : Routine before after) (who : Option JobId) :
    after.changesOf who = before.changesOf who := by
  obtain ⟨told, adds, within⟩ := routine
  exact adds.changesOf
    (fun report member => Report.isChange_of_isRoutine (within report member)) who

theorem changesOf_tell (b : Books) {event : Event} {refused : Bool}
    (change : (Report.event event refused).isChange = true)
    (heard : (b.sink b.journal event).isSome = refused) :
    (b.tell event).changesOf b.actor = .event event refused :: b.changesOf b.actor := by
  have told := (Adds.tell b event).own
  rw [heard] at told
  unfold Books.changesOf
  rw [told, List.cons_append, List.nil_append, List.filter_cons_of_pos change]

theorem clears_clear (b : Books) : b.clear.counters.clears = b.counters.clears + 1 := by
  have dropped (b : Books) (members : List Resource) :
      (b.letGoAll members).counters.clears = b.counters.clears :=
    (show Counts [] [] b (b.letGoAll members) from .letGoAll b members).others .clears
      List.not_mem_nil
  exact dropped _ _

/-- Changes that concern neither the population nor what a policy has seen of a host. -/
structure Concludes (before after : Books) : Prop where
  store : after.store = before.store
  clears : after.counters.clears = before.counters.clears
  baseline : after.baseline = before.baseline
  changes : ∀ who, after.changesOf who = before.changesOf who

theorem Concludes.trans (first : Concludes before middle) (second : Concludes middle after) :
    Concludes before after where
  store := second.store.trans first.store
  clears := second.clears.trans first.clears
  baseline := second.baseline.trans first.baseline
  changes := fun who => (second.changes who).trans (first.changes who)

theorem Concludes.tell (b : Books) {event : Event} {refused : Bool}
    (heard : (b.sink b.journal event).isSome = refused)
    (quiet : (Report.event event refused).isChange = false) : Concludes b (b.tell event) where
  store := rfl
  clears := rfl
  baseline := rfl
  changes := (heard ▸ Adds.tell b event).changesOf (List.forall_mem_singleton.mpr quiet)

end Books

/-! ## The end of a look -/

theorem Report.quiet_of_isOfCycle {report : Report} (cycle : report.isOfCycle = true) :
    report.isChange = false ∧ report.rebases = false := by
  cases report with
  | event e =>
      cases e with
      | addressesChanged => contradiction
      | _ => exact ⟨rfl, rfl⟩
  | policyStarted => contradiction
  | _ => exact ⟨rfl, rfl⟩

theorem Departs.quiet {enabled : Bool} {panics : String → Prop} {outcome : Except Failure Stage}
    {told : List Report} (departs : Departs (·.isOfCycle = true) enabled panics outcome told) :
    ∀ report ∈ told, report.isChange = false ∧ report.rebases = false := by
  obtain ⟨exit, rest, rfl, exits, within⟩ := departs
  refine List.forall_mem_append.mpr
    ⟨?_, fun report member => Report.quiet_of_isOfCycle (within report member)⟩
  cases exits with
  | ticks | sleeps | unwound => simp
  | stopped | unheard | failed => simp [Report.isChange, Report.rebases]
  | cut cycle => exact List.forall_mem_singleton.mpr (Report.quiet_of_isOfCycle cycle)

namespace Job
open Books (Concludes)

theorem closeTick_concludes {j : Job} (own : j.kind = .management) (ended : Except String Unit)
    (b : Books) : Concludes b ((j.closeTick ended).after b).2 := by
  have goes : Work.Goes (fun _ => False) (j.closeTick ended) b _ := closeTick_goes j ended b b
  have counts : Work.Counts [] (j.closeTick ended) := closeTick_counts j ended
  have tells : Work.Tells (j.closeTick ended) b
      (Departs (·.isOfCycle = true) j.enabled fun _ => True) :=
    closeTick_tells own ended fun _ => trivial
  obtain ⟨told, adds, departs⟩ := tells
  have quiet := departs.quiet
  exact {
    store := goes.changes.store_eq
    clears := (counts b).others .clears List.not_mem_nil
    baseline := adds.baseline_eq fun report member => (quiet report member).2
    changes := adds.changesOf fun report member => (quiet report member).1 }

theorem supervise_changesOf (kind : JobKind) (failure : Failure) (b : Books) (who : Option JobId) :
    (supervise kind failure b).changesOf who = b.changesOf who := by
  obtain ⟨refused, reports⟩ := supervise_reports kind failure b
  have quiet : (obituary b kind failure refused).filter Report.isChange = [] := by
    unfold obituary failureEvent
    split <;> cases kind <;> rfl
  unfold Books.changesOf
  rw [reports, List.filter_append]
  split
  · rw [quiet, List.nil_append]
  · rfl

/-- What a turn does apart from its work concerns no look. -/
theorem turn_concludes (j : Job) (id : JobId) (work : Work Stage) (b : Books) :
    Concludes (work.after { b with actor := some id }).2 (j.turn id work b).2 := by
  have changes : Books.Changes (fun _ => False) _ (j.turn id work b).2 := j.turn_changes id work b
  have counts : Books.Counts [] [] _ (j.turn id work b).2 := j.after_counts id work b
  refine ⟨changes.store_eq, counts.others .clears List.not_mem_nil, ?_, fun who => ?_⟩
  all_goals
    unfold turn
    rcases ended : work.after { b with actor := some id } with ⟨failure | stage, left⟩ <;>
      simp only [Work.after] at ended <;> simp only [ended]
  · exact (supervise_aside _ _ _).2.1
  · exact supervise_changesOf _ _ _ _
  · rfl

theorem resolved_concludes {j : Job} (own : j.kind = .management) (id : JobId) (hostname : String)
    (resolution : Policy.Resolution) (b : Books) :
    Concludes ((Policy.watch hostname resolution).after { b with actor := some id }).2
      (j.turn id (j.resolved hostname resolution) b).2 :=
  (closeTick_concludes own _ _).trans (j.turn_concludes id (j.resolved hostname resolution) b)

end Job

/-! ## What comes of a look -/

namespace Turn

/-- The books as the work of a turn finds them. -/
def begun (turn : Turn) : Books := { turn.before with actor := some turn.job }

def isLook (turn : Turn) : Bool :=
  match turn.signal with
  | .resolved _ => true
  | _ => false

theorem isLook_eq_true {turn : Turn} :
    turn.isLook = true ↔ ∃ resolution, turn.signal = .resolved resolution := by
  unfold isLook
  cases turn.signal <;> simp

/-- The set of addresses that a look found. -/
def answer? (turn : Turn) : Option (Finset Address) :=
  match turn.signal with
  | .resolved (.ok found) => some found.toFinset
  | _ => none

/-- Whether the sink accepts an event when a turn begins. -/
def hears (turn : Turn) (event : Event) : Bool :=
  (turn.before.sink turn.before.journal event).isNone

/-- The addresses that a look adopts where some have been seen: what it found, if that is another
set and the sink accepts the change. -/
def adopts? (hostname : String) (seen : Finset Address) (look : Turn) : Option (Finset Address) :=
  look.answer?.filter fun found =>
    found ≠ seen ∧ look.hears (.addressesChanged hostname seen.card found.card) = true

/-- The change of addresses that a look reports. -/
def changes (hostname : String) (seen : Finset Address) (look : Turn) : List Report :=
  match look.answer? with
  | some found =>
      let change := .addressesChanged hostname seen.card found.card
      if found = seen then [] else [.event change (!look.hears change)]
  | none => []

/-- The pool is cleared once, and other addresses count as seen. -/
structure Clears (turn : Turn) (found : Finset Address) : Prop where
  store : turn.after.store = turn.before.store.clear.2
  clears : turn.after.counters.clears = turn.before.counters.clears + 1
  baseline : turn.after.baseline.toFinset = found

/-- The pool is not cleared, and the same addresses count as seen. -/
structure Keeps (turn : Turn) : Prop where
  store : turn.after.store = turn.before.store
  clears : turn.after.counters.clears = turn.before.counters.clears
  baseline : turn.after.baseline = turn.before.baseline

theorem Clears.not_keeps {turn : Turn} {found : Finset Address} (cleared : turn.Clears found) :
    ¬ turn.Keeps := fun keeps => by simpa [keeps.clears] using cleared.clears

/-- A look clears the pool exactly if it adopts the addresses that it found, and it reports a
change exactly if it found others. -/
structure Exact (hostname : String) (seen : Finset Address) (look : Turn) : Prop where
  before : look.before.baseline.toFinset = seen
  cleared : ∀ found, look.adopts? hostname seen = some found → look.Clears found
  kept : look.adopts? hostname seen = none → look.Keeps
  reports : look.after.changesOf (some look.job) =
    look.changes hostname seen ++ look.before.changesOf (some look.job)

section
variable {hostname : String} {seen found : Finset Address} {look : Turn}

theorem adopts?_eq_some : look.adopts? hostname seen = some found ↔
    look.answer? = some found ∧ found ≠ seen ∧
      look.hears (.addressesChanged hostname seen.card found.card) = true := by
  simp [adopts?, Option.filter_eq_some_iff]

theorem adopts?_eq_none (same : ∀ found, look.answer? = some found → found = seen) :
    look.adopts? hostname seen = none :=
  Option.eq_none_iff_forall_ne_some.mpr fun found adopted => by
    obtain ⟨answer, other, _⟩ := adopts?_eq_some.mp adopted
    exact other (same found answer)

theorem adopts?_of_unheard (answer : look.answer? = some found)
    (unheard : look.hears (.addressesChanged hostname seen.card found.card) = false) :
    look.adopts? hostname seen = none :=
  Option.eq_none_iff_forall_ne_some.mpr fun _ adopted => by
    obtain ⟨answer', _, heard⟩ := adopts?_eq_some.mp adopted
    cases answer.symm.trans answer'
    cases unheard.symm.trans heard

/-- A look that finds no other addresses, if it finds any, is exact if nothing comes of it. -/
theorem Exact.of_same (before : look.before.baseline.toFinset = seen)
    (same : ∀ found, look.answer? = some found → found = seen)
    (concludes : Books.Concludes look.begun look.after) :
    look.Exact hostname seen where
  before := before
  cleared := fun found adopted => by cases adopted.symm.trans (adopts?_eq_none same)
  kept := fun _ => ⟨concludes.store, concludes.clears, concludes.baseline⟩
  reports := by
    rw [concludes.changes, changes]
    cases answer : look.answer? with
    | none => rfl
    | some found =>
        simp only [if_pos (same found answer), List.nil_append]
        rfl

variable {left : Books}

/-- What a look reports that finds other addresses. -/
theorem changes_of_told (answer : look.answer? = some found) (other : found ≠ seen)
    (concludes : Books.Concludes left look.after)
    (told : left.changesOf (some look.job) =
      (look.begun.tell
        (.addressesChanged hostname seen.card found.card)).changesOf (some look.job)) :
    look.after.changesOf (some look.job) =
      look.changes hostname seen ++ look.before.changesOf (some look.job) := by
  let change : Event := .addressesChanged hostname seen.card found.card
  have heard : (look.begun.sink look.begun.journal change).isSome = !look.hears change :=
    (Option.not_isNone _).symm
  have reported := Books.changesOf_tell look.begun rfl heard
  rw [concludes.changes, told, changes, answer]
  simp only [if_neg other]
  exact reported

/-- A look that finds other addresses without being heard is exact if all that comes of it is the
refused event. -/
theorem Exact.of_refused (before : look.before.baseline.toFinset = seen)
    (answer : look.answer? = some found) (other : found ≠ seen)
    (refused : look.hears (.addressesChanged hostname seen.card found.card) = false)
    (concludes : Books.Concludes
      (look.begun.tell (.addressesChanged hostname seen.card found.card)) look.after) :
    look.Exact hostname seen where
  before := before
  cleared := fun found' adopted => by cases adopted.symm.trans (adopts?_of_unheard answer refused)
  kept := fun _ => ⟨concludes.store, concludes.clears, concludes.baseline⟩
  reports := changes_of_told answer other concludes rfl

/-- A look that finds other addresses and is heard is exact if the pool is cleared and its baseline
is what it found. -/
theorem Exact.of_heard {current : List Address} (before : look.before.baseline.toFinset = seen)
    (answer : look.answer? = some current.toFinset) (other : current.toFinset ≠ seen)
    (heard : look.hears (.addressesChanged hostname seen.card current.toFinset.card) = true)
    (concludes : Books.Concludes { (look.begun.tell
      (.addressesChanged hostname seen.card current.toFinset.card)).clear with
        baseline := current } look.after) :
    look.Exact hostname seen where
  before := before
  cleared := fun found adopted => by
    obtain ⟨answer', _, _⟩ := adopts?_eq_some.mp adopted
    cases answer.symm.trans answer'
    exact {
      store := concludes.store.trans (Books.store_clear _)
      clears := concludes.clears.trans (Books.clears_clear _)
      baseline := by rw [concludes.baseline] }
  kept := fun kept => by
    cases kept.symm.trans (adopts?_eq_some.mpr ⟨answer, other, heard⟩)
  reports := changes_of_told answer other concludes ((Books.Routine.clear _).changesOf _)

end

end Turn

namespace System
variable {s next : System} {a : Action} {turn : Turn} {hostname : String}

theorem Gives.look {resolution : Policy.Resolution} (gives : s.Gives a turn next)
    (policy : Job.policyOf s.books = .addresses hostname)
    (signal : turn.signal = .resolved resolution) :
    turn.standing.kind = .management ∧
      Books.Concludes
        ((Policy.watch hostname resolution).after turn.begun).2
        turn.after := by
  cases gives with
  | turn running found answered =>
      cases signal
      cases Job.responds answered with
      | resolved _ _ same own =>
          cases same.symm.trans policy
          exact ⟨own, Job.resolved_concludes own _ hostname resolution _⟩

theorem changeTo_eq {b : Books} (ordered : Ordered b.baseline) (hostname : String)
    (found : List Address) :
    Policy.changeTo hostname b found =
      .addressesChanged hostname b.baseline.toFinset.card
        (Address.canonical found).toFinset.card := by
  rw [Policy.changeTo, ordered.length, (Address.ordered_canonical found).length]

/-- A look is exact, and keeps the addresses that count as seen in order. -/
theorem Gives.exact {resolution : Policy.Resolution} (gives : s.Gives a turn next)
    (policy : Job.policyOf s.books = .addresses hostname) (ordered : Ordered s.books.baseline)
    (signal : turn.signal = .resolved resolution) :
    turn.Exact hostname s.books.baseline.toFinset ∧ Ordered turn.after.baseline := by
  obtain ⟨_, concludes⟩ := gives.look policy signal
  rw [← gives.before] at ordered ⊢
  cases resolution with
  | error text =>
      have none : turn.answer? = none := by simp [Turn.answer?, signal]
      rw [Policy.watch_error] at concludes
      have kept := (Books.Concludes.tell turn.begun rfl rfl).trans concludes
      exact ⟨.of_same rfl (by simp [none]) kept, kept.baseline ▸ ordered⟩
  | ok found =>
      have answer : turn.answer? = some (Address.canonical found).toFinset := by
        simp [Turn.answer?, signal, Address.toFinset_canonical]
      have change : Policy.changeTo hostname turn.begun found = .addressesChanged hostname
          turn.before.baseline.toFinset.card (Address.canonical found).toFinset.card :=
        changeTo_eq ordered hostname found
      by_cases same : turn.begun.baseline = Address.canonical found
      · rw [Policy.watch_same same] at concludes
        refine ⟨.of_same rfl (fun set answer' => ?_) concludes, concludes.baseline ▸ ordered⟩
        cases answer.symm.trans answer'
        exact congrArg List.toFinset same.symm
      · have other : (Address.canonical found).toFinset ≠ turn.before.baseline.toFinset :=
          fun equal => same ((Address.ordered_canonical found).eq_of_toFinset ordered equal).symm
        cases heard : turn.begun.sink turn.begun.journal
            (Policy.changeTo hostname turn.begun found) with
        | some refusal =>
            rw [Policy.watch_refused same heard] at concludes
            rw [change] at heard concludes
            exact ⟨.of_refused rfl answer other (congrArg Option.isNone heard) concludes,
              concludes.baseline ▸ ordered⟩
        | none =>
            rw [Policy.watch_changed same heard] at concludes
            rw [change] at heard concludes
            exact ⟨.of_heard rfl answer other (congrArg Option.isNone heard) concludes,
              concludes.baseline ▸ Address.ordered_canonical found⟩

end System
end ResourcePool
