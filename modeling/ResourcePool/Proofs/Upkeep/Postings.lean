import ResourcePool.Proofs.Books.Postings
import ResourcePool.Proofs.Upkeep.Tick

/-! What a job's turn counts and tells of. The two agree whether the turn is cut short or not,
but for events that a policy of the user's makes up. -/
namespace ResourcePool
open Books (Trails)

namespace Policy

/-- An event that an act offers of its own. -/
def Act.event? : Act → Option Event
  | .log event | .tell event => some event
  | _ => none

/-- The events that some acts offer of their own, up to the one that is refused. -/
def volunteered : List Act → Books → List Event
  | [], _ => []
  | act :: rest, b => act.event?.toList ++
      match (Policy.act act).after b with
      | (.ok _, b') => volunteered rest b'
      | (.error _, _) => []

end Policy

/-- The events that a signal's acts offer. -/
def Signal.offered : Signal → List Event
  | .tick acts _ => acts.filterMap Policy.Act.event?
  | _ => []

/-- The events that a turn in answer to a signal offers at a user's policy's wish. -/
def Signal.volunteered (b : Books) : Signal → List Event
  | .tick acts _ => Policy.volunteered acts b
  | _ => []

variable {told : List Event}

namespace Work
variable {α β : Type}

/-- Whether it is cut short or not, a stretch counts what it tells of, apart from some events. -/
def Trails (told : List Event) (w : Work α) : Prop :=
  ∀ b, Books.Trails told b (w.after b).2

namespace Trails

theorem pure (a : α) : Trails [] (Pure.pure a : Work α) := fun b => .refl b

theorem throw (failure : Failure) : Trails [] (MonadExcept.throw failure : Work α) :=
  fun b => .refl b

theorem books : Trails [] Work.books := fun b => .refl b

theorem apply {change : Books → Books} (trails : ∀ b, Books.Trails told b (change b)) :
    Trails told (Work.apply change) := trails

theorem modifyGet {change : Books → α × Books}
    (trails : ∀ b, Books.Trails told b (change b).2) :
    Trails told (MonadStateOf.modifyGet change : Work α) := trails

theorem log (event : Event) : Trails [event] (Work.log event) := by
  intro b
  rw [after_log]
  exact .tell b event

/-- An event that no counter belongs to. -/
theorem quiet {event : Event} (silent : event.posting? = none) : Trails [] (Work.log event) := by
  intro b
  rw [after_log]
  exact .quiet b silent

theorem bind {w : Work α} {next : α → Work β} (first : Trails told w)
    (rest : ∀ a, Trails [] (next a)) : Trails told (w >>= next) := fun b =>
  bind_keeps (P := Books.Trails told b) (first b) fun a b' trails => trails.next (rest a b')

/-- A stretch that tells of what was counted ahead of it. -/
theorem counted {change : Books → α × Books} {next : α → Work β} (event : α → Event)
    (ahead : ∀ b, Books.Trails [event (change b).1] (change b).2 b)
    (rest : ∀ a, Trails [event a] (next a)) :
    Trails [] ((MonadStateOf.modifyGet change : Work α) >>= next) := by
  intro b
  rw [after_bind]
  exact (ahead b).meet (rest (change b).1 (change b).2)

theorem tryCatch {w : Work α} {handler : Failure → Work α} (first : Trails told w)
    (rescue : ∀ failure, Trails [] (handler failure)) :
    Trails told (MonadExcept.tryCatch w handler) := by
  intro b
  have tried := first b
  rw [after_tryCatch]
  rcases ended : w.after b with ⟨failure | _, b'⟩ <;> rw [ended] at tried
  · exact tried.next (rescue failure b')
  · exact tried

end Trails
end Work

open Work.Trails (books log quiet apply modifyGet)

/-! ## The keeper -/

namespace Keeper

theorem disposal_trails (surplus : Nat) : Work.Trails [] (do
    let disposed ← modifyGet fun b =>
      let (disposed, store) := b.store.dispose surplus
      (disposed, ({ b with store }.count .disposed disposed.length).letGoAll disposed)
    Work.log (.disposing disposed.length)
    return (none : Option Batch)) := by
  refine .counted (fun disposed => .disposing disposed.length) (fun b => ?_)
    fun disposed => (log _).bind fun _ => .pure _
  have counted : Trails [.disposing (b.store.dispose surplus).1.length]
      (({ b with store := (b.store.dispose surplus).2 } : Books).count .disposed
        (b.store.dispose surplus).1.length) b := .ahead _ rfl (by decide)
  intro counter reported
  have kept := Trails.letGoAll (({ b with store := (b.store.dispose surplus).2 } : Books).count
    .disposed (b.store.dispose surplus).1.length) (b.store.dispose surplus).1 counter reported
  exact (counted counter reported).trans (kept.symm.trans (UInt64.add_zero _))

theorem survey_trails : Work.Trails [] survey := by
  refine (quiet rfl).bind fun _ => books.bind fun b => ?_
  simp only
  split
  · exact (quiet rfl).bind fun _ => .pure _
  · split
    · exact (quiet rfl).bind fun _ => disposal_trails _
    · exact (quiet rfl).bind fun _ => .pure _

theorem logFailure_trails (needed : Nat) (error : String) (made : List Resource) :
    Work.Trails [] (logFailure needed error made) :=
  .counted (fun _ => .creationFailed needed error)
    (fun b => .ahead b rfl (by decide)) fun _ =>
      (log _).tryCatch fun failure => (apply fun b => .letGoAll b made).bind fun _ => .throw failure

theorem note_trails (batch : Batch) (call : Resource) (supply : Supply) :
    Work.Trails [] (note batch call supply) := by
  unfold note
  split
  · exact .pure _
  · exact (logFailure_trails _ _ _).bind fun _ => .pure _

/-- A batch is counted before it is admitted or dropped, and its event tells which. -/
theorem admitBatch_trails (generation : Nat) (made : List Resource) :
    Work.Trails [] (admitBatch generation made) := by
  unfold admitBatch
  split
  · exact .pure ()
  · refine .counted (fun _ => .added made.length)
      (fun b => .ahead b rfl (by decide)) fun _ b => ?_
    rw [Work.after_bind, Work.after_books]
    simp only
    split
    · rename_i store _
      have stored : Trails [] b { b with store } := .aside rfl rfl
      have told : Work.Trails [.added made.length] (Work.log (.added made.length)) := log _
      rw [Work.after_bind, Work.after_apply]
      exact stored.trans (told { b with store })
    · have told : Work.Trails [.additionSkipped made.length]
          (Work.log (.additionSkipped made.length)) := log _
      rw [Work.after_bind, Work.after_apply]
      exact ((Trails.letGoAll b made).trans (told (b.letGoAll made))).congr fun _ => rfl

theorem collect_trails (batch : Batch) (call : Resource) (supply : Supply) :
    Work.Trails [] (collect batch call supply) := by
  refine (note_trails _ call supply).bind fun noted => ?_
  split
  · exact (admitBatch_trails _ _).bind fun _ => .pure _
  · exact .pure _

end Keeper

/-! ## The health job -/

namespace Health

theorem seek_trails (checked locked : Nat) (slots : List SlotId) :
    Work.Trails [] (seek checked locked slots) := by
  induction slots generalizing locked with
  | nil =>
      exact (quiet rfl).bind fun _ => (quiet rfl).bind fun _ => (quiet rfl).bind fun _ => .pure _
  | cons slot rest ih =>
      refine books.bind fun b => ?_
      split
      · exact (quiet rfl).bind fun _ => ih locked
      · exact (quiet rfl).bind fun _ => (quiet rfl).bind fun _ =>
          (apply fun b => .take b _).bind fun _ => .pure _

theorem survey_trails : Work.Trails [] survey :=
  (quiet rfl).bind fun _ => books.bind fun _ => (quiet rfl).bind fun _ => seek_trails _ _ _

theorem evict_trails (slot : SlotId) : Work.Trails [] (evict slot) := by
  have counted : Work.Trails [] (Work.apply (·.count .evicted 1)) :=
    apply fun b => .count b .evicted 1 (by decide)
  refine (modifyGet fun b => .quiet b rfl).bind fun refusal =>
    (modifyGet fun b => .remove b slot).bind fun was => ?_
  cases refusal with
  | none =>
      cases was with
      | false => exact .pure ()
      | true => exact counted.bind fun _ => .pure ()
  | some refusal =>
      cases was with
      | false => exact .throw _
      | true => exact counted.bind fun _ => .throw _

theorem conclude_trails (slot : SlotId) (verdict : Verdict) :
    Work.Trails [] (conclude slot verdict) := by
  cases verdict with
  | sound => exact quiet rfl
  | broken => exact evict_trails slot
  | failed text => exact (quiet rfl).bind fun _ => evict_trails slot
  | panicked text => exact .pure ()

theorem judge_trails (round : Round) (verdict : Verdict) :
    Work.Trails [] (judge round verdict) :=
  (apply fun b => .letGo b _).bind fun _ =>
    (conclude_trails round.slot verdict).bind fun _ => seek_trails _ _ _

end Health

/-! ## Policies -/

namespace Policy

theorem log_trails (event : Event) (b : Books) : Trails [event] b ((Tick.log event).after b).2 := by
  rw [Tick.after_log_eq]
  exact .tell b event

theorem act_trails (act : Act) (b : Books) :
    Trails act.event?.toList b ((Policy.act act).after b).2 := by
  cases act with
  | clear => exact .clear b
  | log event => exact log_trails event b
  | tell event => exact .tell b event
  | readPopulation | readId => exact .note b rfl

/-- What acts report beside what they count is what they volunteer. -/
theorem acts_trails (acts : List Act) (b : Books) :
    Trails (volunteered acts b) b ((Policy.acts acts).after b).2 := by
  induction acts generalizing b with
  | nil => exact .refl b
  | cons act rest ih =>
      have first := act_trails act b
      unfold Policy.acts volunteered
      rw [Tick.after_bind]
      rcases ended : (Policy.act act).after b with ⟨text | _, b'⟩ <;> rw [ended] at first
      · simp only [List.append_nil]
        exact first
      · exact first.trans (ih b')

theorem watch_trails (hostname : String) (resolution : Resolution) (b : Books) :
    Trails [] b ((watch hostname resolution).after b).2 := by
  cases resolution with
  | error text =>
      rw [watch_error]
      exact .quiet b rfl
  | ok found =>
      have told : Trails [] b (b.tell (changeTo hostname b found)) := .quiet b rfl
      by_cases same : b.baseline = Address.canonical found
      · rw [watch_same same]
        exact .refl b
      · cases answer : b.sink b.journal (changeTo hostname b found) with
        | some refusal =>
            rw [watch_refused same answer]
            exact told
        | none =>
            rw [watch_changed same answer]
            exact (told.next (.clear _)).next (.aside rfl rfl)

theorem start_trails (policy : Policy) (b : Books) : Trails [] b (policy.start b) := by
  have noted : Trails [] b (b.note .policyStarted) := .note b rfl
  cases policy with
  | addresses hostname => exact noted.next (.aside rfl rfl)
  | custom label => exact noted

theorem beginTick_trails (policy : Policy) (b : Books) : Trails [] b (policy.beginTick b) := by
  cases policy with
  | addresses hostname =>
      have built : Trails [] b { b with resolvers := b.resolvers + 1 } := .aside rfl rfl
      exact built.next (.note _ rfl)
  | custom label => exact .refl b

end Policy

/-! ## Turns -/

namespace Job

theorem finish_trails (kind : JobKind) : Work.Trails [] (finish kind) := by
  cases kind with
  | keeper | health => exact (quiet rfl).bind fun _ => .pure _
  | management =>
      exact (apply fun b => .note b rfl).bind fun _ => books.bind fun _ =>
        (quiet rfl).bind fun _ => .pure _

theorem pause_trails (kind : JobKind) (enabled : Bool) : Work.Trails [] (pause kind enabled) := by
  refine books.bind fun b => ?_
  cases nap? b kind with
  | none => exact .pure _
  | some nap =>
      cases enabled with
      | true => exact .pure _
      | false => exact finish_trails kind

theorem cycle_trails (kind : JobKind) (enabled : Bool) : Work.Trails [] (cycle kind enabled) := by
  cases kind with
  | keeper =>
      refine Keeper.survey_trails.bind ?_
      rintro (_ | batch)
      · exact pause_trails .keeper enabled
      · exact .pure _
  | health =>
      refine Health.survey_trails.bind ?_
      rintro (_ | round)
      · exact pause_trails .health enabled
      · exact .pure _
  | management =>
      exact books.bind fun b => (quiet rfl).bind fun _ =>
        (apply fun b' => Policy.beginTick_trails (policyOf b) b').bind fun _ => .pure _

theorem loop_trails (kind : JobKind) (enabled : Bool) : Work.Trails [] (loop kind enabled) := by
  cases enabled with
  | true => exact cycle_trails kind true
  | false => exact finish_trails kind

theorem run_trails (j : Job) : Work.Trails [] j.run := by
  unfold run
  split
  · exact (apply fun b => Policy.start_trails (policyOf b) b).bind fun _ => loop_trails _ _
  · exact loop_trails _ _

theorem wake_trails (j : Job) (nap : Nap) : Work.Trails [] (j.wake nap) := by
  unfold wake
  split
  · refine books.bind fun b => ?_
    split
    · exact .pure _
    · exact cycle_trails _ _
  · exact finish_trails _

theorem collect_trails (j : Job) (batch : Keeper.Batch) (call : Resource) (supply : Supply) :
    Work.Trails [] (j.collect batch call supply) := by
  refine (Keeper.collect_trails batch call supply).bind ?_
  rintro (_ | batch)
  · exact pause_trails _ _
  · exact .pure _

theorem judge_trails (j : Job) (round : Health.Round) (verdict : Verdict) :
    Work.Trails [] (j.judge round verdict) := by
  cases verdict with
  | panicked text => exact (apply fun b => .letGo b _).bind fun _ => .pure _
  | sound | broken | failed =>
      refine (Health.judge_trails round _).bind ?_
      rintro (_ | round)
      · exact pause_trails _ _
      · exact .pure _

theorem closeTick_trails (j : Job) (outcome : Except String Unit) :
    Work.Trails [] (j.closeTick outcome) := by
  have closed (label : String) : Work.Trails [] (do
      Work.log (.policyCycleEnd label)
      pause j.kind j.enabled) := (quiet rfl).bind fun _ => pause_trails j.kind j.enabled
  refine books.bind fun b => ?_
  cases outcome with
  | ok => exact closed _
  | error text =>
      have failed (label : String) : Work.Trails [] (do
          Work.log (.policyFailed label text)
          Work.log (.policyCycleEnd label)
          pause j.kind j.enabled) := (quiet rfl).bind fun _ => closed label
      simp only
      split
      · exact (apply fun b => .note b rfl).bind fun _ =>
          (Work.Trails.throw _).bind fun _ => failed _
      · exact failed _

/-- A tick is told of in the events of its acts before it is closed. -/
theorem tick_trails (j : Job) (acts : List Policy.Act) (ending : Policy.Ending) (b : Books) :
    Trails (Policy.volunteered acts b) b ((j.tick acts ending).after b).2 := by
  refine Work.bind_keeps (P := Trails (Policy.volunteered acts b) b)
    (Policy.acts_trails acts b) ?_
  rintro (text | _) b' acted
  · exact acted.next (closeTick_trails j _ b')
  · cases ending with
    | waiting | panicked => exact acted
    | done | failed => exact acted.next (closeTick_trails j _ b')

theorem resolved_trails (j : Job) (hostname : String) (resolution : Policy.Resolution)
    (b : Books) : Trails [] b ((j.resolved hostname resolution).after b).2 :=
  Work.bind_keeps (P := Trails [] b) (Policy.watch_trails hostname resolution b)
    fun outcome b' watched => watched.next (closeTick_trails j outcome b')

/-- A turn counts what it tells of, apart from what a policy volunteers. -/
theorem Responds.trails {j : Job} {b : Books} {signal : Signal} {work : Work Stage}
    (responds : j.Responds b signal work) (b' : Books) :
    Trails (signal.volunteered b') b' (work.after b').2 := by
  cases responds with
  | run => exact run_trails j b'
  | wake => exact wake_trails j _ b'
  | @launch batch => exact .callFactory b'
  | @deliver batch call supply => exact .endCall b' call supply
  | collect => exact collect_trails j _ _ _ b'
  | @judge round verdict => exact judge_trails j round verdict b'
  | resolved resolution => exact resolved_trails j _ resolution b'
  | tick acts ending => exact tick_trails j acts ending b'

theorem supervise_trails (kind : JobKind) (failure : Failure) (b : Books) :
    Trails [] b (supervise kind failure b) := by
  have told : Trails [] b (b.tell (failureEvent b failure.message kind)) :=
    .quiet b (by cases kind <;> rfl)
  unfold supervise
  simp only
  split
  · exact (told.next (.note _ rfl)).next (.aside rfl rfl)
  · exact told

theorem turn_trails {j : Job} {b : Books} {signal : Signal} {work : Work Stage}
    (answered : j.respond b signal = some work) (id : JobId) :
    Trails (signal.volunteered { b with actor := some id }) b (j.turn id work b).2 := by
  have begun : Trails [] b { b with actor := some id } := .aside rfl rfl
  have worked := begun.trans ((responds answered).trails { b with actor := some id })
  unfold turn
  rcases ended : work.after { b with actor := some id } with ⟨failure | stage, left⟩ <;>
    rw [ended] at worked <;> simp only [Work.after] at ended <;> simp only [ended]
  · exact (worked.next (supervise_trails _ _ _)).next (.aside rfl rfl)
  · exact worked.next (.aside rfl rfl)

end Job
end ResourcePool
