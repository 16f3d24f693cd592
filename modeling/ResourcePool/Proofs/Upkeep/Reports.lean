import ResourcePool.Proofs.Books.Reports
import ResourcePool.Proofs.Upkeep.Job

/-! What the keeper and the health job report, and where a turn leaves them. All they report is
routine, and of themselves they end only when they were asked to stop, or by the panic of a
check or of a pause. -/
namespace ResourcePool

namespace Work
variable {α β : Type} {w : Work α} {b : Books} {post : α → Prop}

/-- From some books a stretch reports only what is routine, and an answer that it comes to has a
property. -/
structure Routine (w : Work α) (b : Books) (post : α → Prop) : Prop where
  reports : Books.Routine b (w.after b).2
  answers : ∀ a, (w.after b).1 = .ok a → post a

namespace Routine

theorem pure {a : α} (holds : post a) : Routine (Pure.pure a) b post :=
  ⟨.refl b, by rintro _ ⟨rfl⟩; exact holds⟩

theorem throw (failure : Failure) : Routine (MonadExcept.throw failure : Work α) b post :=
  ⟨.refl b, by simp⟩

/-- What follows a stretch starts from books that it left steady. -/
theorem bind_steady {next : α → Work β} {property : β → Prop} (first : Routine w b post)
    (rest : ∀ a b', post a → b.Steady b' → Routine (next a) b' property) :
    Routine (w >>= next) b property := by
  obtain ⟨reports, answers⟩ := first
  rcases ended : w.after b with ⟨failure | a, b'⟩ <;> rw [ended] at reports answers
  · constructor <;> rw [after_bind, ended]
    · exact reports
    · simp
  · obtain ⟨reports', answers'⟩ := rest a b' (answers a rfl) reports.steady
    constructor <;> rw [after_bind, ended]
    · exact reports.trans reports'
    · exact answers'

theorem bind {next : α → Work β} {property : β → Prop} (first : Routine w b post)
    (rest : ∀ a b', post a → Routine (next a) b' property) :
    Routine (w >>= next) b property := first.bind_steady fun a b' holds _ => rest a b' holds

theorem map {f : α → β} {property : β → Prop} (routine : Routine w b fun a => property (f a)) :
    Routine (f <$> w) b property := by
  obtain ⟨reports, answers⟩ := routine
  rcases ended : w.after b with ⟨failure | a, b'⟩ <;> rw [ended] at reports answers
  · exact ⟨by rw [after_map, ended]; exact reports, by rw [after_map, ended]; simp⟩
  · constructor <;> rw [after_map, ended]
    · exact reports
    · rintro _ ⟨rfl⟩
      exact answers a rfl

theorem books (b : Books) : Routine Work.books b (· = b) :=
  ⟨.refl b, by rintro _ ⟨rfl⟩; rfl⟩

theorem apply {change : Books → Books} (routine : Books.Routine b (change b)) :
    Routine (Work.apply change) b fun _ => True := ⟨routine, fun _ _ => trivial⟩

theorem modifyGet {change : Books → α × Books} (routine : Books.Routine b (change b).2) :
    Routine (MonadStateOf.modifyGet change : Work α) b fun _ => True :=
  ⟨routine, fun _ _ => trivial⟩

theorem log {event : Event} (routine : event.isRoutine = true) :
    Routine (Work.log event) b fun _ => True := by
  constructor <;> rw [after_log]
  · exact .tell b routine
  · exact fun _ _ => trivial

theorem tryCatch {handler : Failure → Work α} (first : Routine w b post)
    (rescue : ∀ failure b', Routine (handler failure) b' post) :
    Routine (MonadExcept.tryCatch w handler) b post := by
  obtain ⟨reports, answers⟩ := first
  rcases ended : w.after b with ⟨failure | a, b'⟩ <;> rw [ended] at reports answers
  · obtain ⟨reports', answers'⟩ := rescue failure b'
    constructor <;> rw [after_tryCatch, ended]
    · exact reports.trans reports'
    · exact answers'
  · constructor <;> rw [after_tryCatch, ended]
    · exact reports
    · exact answers

end Routine
end Work

open Work (Routine)

/-! ## The keeper -/

namespace Keeper
variable {b : Books}

theorem survey_routine (b : Books) : Routine survey b fun _ => True := by
  refine (Routine.log rfl).bind fun _ b _ => (Routine.books b).bind fun seen b _ => ?_
  simp only
  split
  · exact (Routine.log rfl).bind fun _ _ _ => .pure trivial
  · split
    · refine (Routine.log rfl).bind fun _ b _ => (Routine.modifyGet ?_).bind fun _ _ _ =>
        (Routine.log rfl).bind fun _ _ _ => .pure trivial
      exact ((Books.Routine.stored b _).trans (.count _ .disposed _)).trans (.letGoAll _ _)
    · exact (Routine.log rfl).bind fun _ _ _ => .pure trivial

theorem logFailure_routine (needed : Nat) (error : String) (made : List Resource) (b : Books) :
    Routine (logFailure needed error made) b fun _ => True :=
  (Routine.apply (.count b .factoryFailures 1)).bind fun _ _ _ =>
    (Routine.log rfl).tryCatch fun failure b => (Routine.apply (.letGoAll b made)).bind
      fun _ _ _ => .throw failure

theorem note_routine (batch : Batch) (call : Resource) (supply : Supply) (b : Books) :
    Routine (note batch call supply) b fun _ => True := by
  unfold note
  split
  · exact .pure trivial
  · exact (logFailure_routine _ _ _ b).bind fun _ _ _ => .pure trivial

theorem admitBatch_routine (generation : Nat) (made : List Resource) (b : Books) :
    Routine (admitBatch generation made) b fun _ => True := by
  unfold admitBatch
  split
  · exact .pure trivial
  · refine (Routine.apply (.count b .created _)).bind fun _ b _ =>
      (Routine.books b).bind fun seen b _ => ?_
    split
    · exact (Routine.apply (.stored b _)).bind fun _ _ _ => .log rfl
    · exact (Routine.apply (.letGoAll b made)).bind fun _ _ _ => .log rfl

theorem collect_routine (batch : Batch) (call : Resource) (supply : Supply) (b : Books) :
    Routine (collect batch call supply) b fun _ => True := by
  refine (note_routine _ call supply b).bind fun noted b _ => ?_
  split
  · exact (admitBatch_routine _ _ b).bind fun _ _ _ => .pure trivial
  · exact .pure trivial

end Keeper

/-! ## The health job -/

namespace Health

theorem seek_routine (checked locked : Nat) (slots : List SlotId) (b : Books) :
    Routine (seek checked locked slots) b fun _ => True := by
  induction slots generalizing locked b with
  | nil =>
      exact (Routine.log rfl).bind fun _ _ _ => (Routine.log rfl).bind fun _ _ _ =>
        (Routine.log rfl).bind fun _ _ _ => .pure trivial
  | cons slot rest ih =>
      refine (Routine.books b).bind fun seen b _ => ?_
      split
      · exact (Routine.log rfl).bind fun _ b _ => ih locked b
      · exact (Routine.log rfl).bind fun _ _ _ => (Routine.log rfl).bind fun _ b _ =>
          (Routine.apply (.take b _)).bind fun _ _ _ => .pure trivial

theorem survey_routine (b : Books) : Routine survey b fun _ => True :=
  (Routine.log rfl).bind fun _ b _ => (Routine.books b).bind fun _ _ _ =>
    (Routine.log rfl).bind fun _ b _ => seek_routine _ _ _ b

theorem evict_routine (slot : SlotId) (b : Books) : Routine (evict slot) b fun _ => True := by
  refine (Routine.modifyGet (.tell b rfl)).bind fun refusal b _ =>
    (Routine.modifyGet (.remove b slot)).bind fun was b _ => ?_
  have counted (b : Books) : Routine (Work.apply (·.count .evicted 1)) b fun _ => True :=
    .apply (.count b .evicted 1)
  cases refusal with
  | none =>
      cases was with
      | false => exact .pure trivial
      | true => exact (counted b).bind fun _ _ _ => .pure trivial
  | some refusal =>
      cases was with
      | false => exact .throw _
      | true => exact (counted b).bind fun _ _ _ => .throw _

theorem conclude_routine (slot : SlotId) (verdict : Verdict) (b : Books) :
    Routine (conclude slot verdict) b fun _ => True := by
  cases verdict with
  | sound => exact .log rfl
  | broken => exact evict_routine slot b
  | failed text => exact (Routine.log rfl).bind fun _ b _ => evict_routine slot b
  | panicked text => exact .pure trivial

theorem judge_routine (round : Round) (verdict : Verdict) (b : Books) :
    Routine (judge round verdict) b fun _ => True :=
  (Routine.apply (.letGo b _)).bind fun _ b _ =>
    (conclude_routine round.slot verdict b).bind fun _ b _ => seek_routine _ _ _ b

end Health

/-! ## Turns -/

/-- The panic with which a check or a tick ends. -/
def Signal.panic? : Signal → Option String
  | .judge (.panicked text) | .tick _ (.panicked text) => some text
  | _ => none

/-- The panics with which a turn may end a job of a kind: that of its check or its tick, and that
of a pause with an end that the clock cannot tell. -/
def Job.Panics (kind : JobKind) (signal : Signal) (b : Books) (text : String) : Prop :=
  signal.panic? = some text ∨ Job.nap? b kind = none ∧ text = Nap.overflow

/-- Where the work of a turn may leave a job of a kind: it ends only if it was asked to stop, or
by a panic. -/
def Stage.Follows (kind : JobKind) (enabled : Bool) (panics : String → Prop) : Stage → Prop
  | .spawned => False
  | .creating _ => kind = .keeper
  | .checking _ => kind = .health
  | .ticking => kind = .management
  | .sleeping .. => True
  | .ended none => enabled = false
  | .ended (some text) => panics text

/-- The stages of a kind's cycle. -/
def Stage.Suits (kind : JobKind) : Stage → Prop
  | .creating _ => kind = .keeper
  | .checking _ => kind = .health
  | .ticking => kind = .management
  | _ => True

theorem Stage.Follows.suits {kind : JobKind} {enabled : Bool} {panics : String → Prop}
    {stage : Stage} (follows : stage.Follows kind enabled panics) : stage.Suits kind := by
  cases stage with
  | spawned => contradiction
  | creating | checking | ticking => exact follows
  | sleeping | ended => trivial

namespace Job
variable {kind : JobKind} {enabled : Bool} {panics : String → Prop} {b : Books}

theorem nap?_congr {left : Books} (steady : b.Steady left) (kind : JobKind) :
    nap? left kind = nap? b kind := by
  obtain ⟨tuning, clock⟩ := Prod.mk.inj steady.timing
  simp only [nap?, steady.settings, tuning, clock]

theorem finish_routine (other : kind ≠ .management) (asked : enabled = false) (b : Books) :
    Routine (finish kind) b (·.Follows kind enabled panics) := by
  cases kind with
  | keeper | health => exact (Routine.log rfl).bind fun _ _ _ => .pure asked
  | management => contradiction

theorem pause_routine (other : kind ≠ .management)
    (overflow : nap? b kind = none → panics Nap.overflow) :
    Routine (pause kind enabled) b (·.Follows kind enabled panics) := by
  refine (Routine.books b).bind fun seen b' same => ?_
  subst seen
  cases beyond : nap? b kind with
  | none => exact .pure (overflow beyond)
  | some nap =>
      cases enabled with
      | true => exact .pure trivial
      | false => exact finish_routine other rfl b'

theorem cycle_routine (other : kind ≠ .management)
    (overflow : nap? b kind = none → panics Nap.overflow) :
    Routine (cycle kind enabled) b (·.Follows kind enabled panics) := by
  cases kind with
  | keeper =>
      refine (Keeper.survey_routine b).bind_steady ?_
      rintro (_ | batch) b _ steady
      · exact pause_routine other (nap?_congr steady .keeper ▸ overflow)
      · exact .pure rfl
  | health =>
      refine (Health.survey_routine b).bind_steady ?_
      rintro (_ | round) b _ steady
      · exact pause_routine other (nap?_congr steady .health ▸ overflow)
      · exact .pure rfl
  | management => contradiction

variable {j : Job}

theorem run_routine (other : j.kind ≠ .management)
    (overflow : nap? b j.kind = none → panics Nap.overflow) :
    Routine j.run b (·.Follows j.kind j.enabled panics) := by
  unfold run loop
  rw [if_neg other]
  cases enabled : j.enabled with
  | true => exact cycle_routine other overflow
  | false => exact finish_routine other rfl b

theorem wake_routine (other : j.kind ≠ .management) (nap : Nap)
    (overflow : nap? b j.kind = none → panics Nap.overflow) :
    Routine (j.wake nap) b (·.Follows j.kind j.enabled panics) := by
  unfold wake
  cases enabled : j.enabled with
  | true =>
      refine (Routine.books b).bind_steady fun seen b _ steady => ?_
      cases nap.wake? seen.settings.alarm seen.clock with
      | none => exact cycle_routine other (nap?_congr steady j.kind ▸ overflow)
      | some wake => exact .pure trivial
  | false => exact finish_routine other rfl b

theorem collect_routine (own : j.kind = .keeper) (batch : Keeper.Batch) (call : Resource)
    (supply : Supply) (overflow : nap? b j.kind = none → panics Nap.overflow) :
    Routine (j.collect batch call supply) b (·.Follows j.kind j.enabled panics) := by
  refine (Keeper.collect_routine batch call supply b).bind_steady ?_
  rintro (_ | batch) b _ steady
  · exact pause_routine (by simp [own]) (nap?_congr steady j.kind ▸ overflow)
  · exact .pure own

theorem judge_routine (own : j.kind = .health) (round : Health.Round) (verdict : Verdict)
    (b : Books) :
    Routine (j.judge round verdict) b
      (·.Follows j.kind j.enabled (Panics j.kind (.judge verdict) b)) := by
  cases verdict with
  | panicked text => exact (Routine.apply (.letGo b _)).bind fun _ _ _ => .pure (Or.inl rfl)
  | sound | broken | failed =>
      refine (Health.judge_routine round _ b).bind_steady ?_
      rintro (_ | round) b _ steady
      · exact pause_routine (by simp [own]) fun overflow =>
          Or.inr ⟨(nap?_congr steady j.kind).symm.trans overflow, rfl⟩
      · exact .pure own

/-- A turn of the keeper or the health job reports only what is routine. -/
theorem Responds.routine {signal : Signal} {work : Work Stage}
    (responds : j.Responds b signal work) (suits : j.stage.Suits j.kind)
    (other : j.kind ≠ .management) (b' : Books) :
    Routine work b' (·.Follows j.kind j.enabled (Panics j.kind signal b')) := by
  have overflow {signal : Signal} (beyond : nap? b' j.kind = none) :
      Panics j.kind signal b' Nap.overflow := Or.inr ⟨beyond, rfl⟩
  cases responds with
  | run => exact run_routine other overflow
  | @wake nap => exact wake_routine other nap overflow
  | @launch batch standing =>
      have own : j.kind = .keeper := by rwa [standing] at suits
      exact .map ⟨(Routine.modifyGet (.callFactory b')).reports, fun _ _ => own⟩
  | @deliver batch call supply standing =>
      have own : j.kind = .keeper := by rwa [standing] at suits
      exact .map ⟨(Routine.modifyGet (.endCall b' call supply)).reports, fun _ _ => own⟩
  | @collect batch call supply standing =>
      have own : j.kind = .keeper := by rwa [standing] at suits
      exact collect_routine own batch call supply overflow
  | @judge round verdict standing =>
      have own : j.kind = .health := by rwa [standing] at suits
      exact judge_routine own round verdict b'
  | resolved _ _ _ own | tick _ _ _ _ own => exact False.elim (other own)

end Job
end ResourcePool
