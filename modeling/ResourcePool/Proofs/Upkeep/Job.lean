import ResourcePool.Proofs.Upkeep.Health
import ResourcePool.Proofs.Upkeep.Keeper
import ResourcePool.Proofs.Upkeep.Policy

/-! What one turn of a job can do: which deeds its stage and the signal warrant, and where
the job stands afterwards. -/
namespace ResourcePool
open Books (Deed Changes)
open Work (Goes)

/-- Whether a job may still bring a resource into the population of a generation. -/
def Stage.Brings (resource : Resource) (generation : Nat) : Stage → Prop
  | .creating batch => batch.generation = generation ∧ resource ∈ batch.resources
  | _ => False

namespace Job

/-- The deeds of a job's turn. -/
def Warrants (j : Job) (signal : Signal) : Deed → Prop
  | .operate (.dispose _) => True
  | .operate (.admitAvailable made generation) => ∀ r ∈ made, j.stage.Brings r generation
  | .operate (.remove slot) =>
      ∃ round verdict, j.stage = .checking round ∧ round.slot = slot ∧ signal = .judge verdict ∧
        verdict.condemns = true
  | .operate .clear => j.stage = .ticking
  | .operate _ => False
  | .callFactory => signal = .launch

theorem Warrants.isUpkeep {j : Job} {signal : Signal} {operation : Store.Operation Resource}
    (warrant : j.Warrants signal (.operate operation)) : operation.isUpkeep = true := by
  cases operation <;> first | rfl | exact False.elim warrant

theorem Warrants.brings {j : Job} {signal : Signal} {operation : Store.Operation Resource}
    {resource : Resource} {generation : Nat} (warrant : j.Warrants signal (.operate operation))
    (brings : operation.Brings resource generation) : j.stage.Brings resource generation := by
  cases operation with
  | admitAvailable made generation =>
      obtain ⟨member, rfl⟩ := brings
      exact warrant resource member
  | admitLeased => exact False.elim warrant
  | _ => exact False.elim brings

theorem isOver_eq_false_of_brings {j : Job} {resource : Resource} {generation : Nat}
    (brings : j.stage.Brings resource generation) : j.isOver = false := by
  unfold isOver
  split
  · rename_i standing
    rw [standing] at brings
    exact False.elim brings
  · rfl

/-- Where a turn may leave a job: a batch is new, or it goes on with what it had and at most
one more call; a check is under way for a slot that is available. -/
def Proceeds (j : Job) (before left : Books) : Stage → Prop
  | .creating batch => (batch.resources = [] ∧ batch.generation = left.store.generation) ∨
      ∃ previous, j.stage = .creating previous ∧ batch.generation = previous.generation ∧
        ∀ r ∈ batch.resources, r ∈ previous.resources ∨ r = before.calls ∧ r < left.calls
  | .checking round => (j.kind = .health ∨ ∃ previous, j.stage = .checking previous) ∧
      left.store.lockAvailable round.slot = some round.resource
  | _ => True

variable {allowed : Deed → Prop}

theorem finish_goes (j : Job) (before b : Books) (kind : JobKind) :
    Goes allowed (finish kind) b fun stage left => j.Proceeds before left stage := by
  cases kind with
  | keeper | health => exact (Goes.log _).bind fun _ _ _ => Goes.pure trivial
  | management =>
      exact (Goes.apply (.note b fun _ => by simp)).bind fun _ _ _ => Goes.books.bind fun _ _ _ =>
        (Goes.log _).bind fun _ _ _ => Goes.pure trivial

theorem pause_goes (j : Job) (before b : Books) (kind : JobKind) (enabled : Bool) :
    Goes allowed (pause kind enabled) b fun stage left => j.Proceeds before left stage := by
  refine Goes.books.bind fun seen b' _ => ?_
  cases nap? seen kind with
  | none => exact Goes.pure trivial
  | some nap =>
      cases enabled with
      | true => exact Goes.pure trivial
      | false => exact finish_goes j before b' kind

theorem cycle_goes (j : Job) (before b : Books) (enabled : Bool)
    (disposal : ∀ count, allowed (.operate (.dispose count))) :
    Goes allowed (cycle j.kind enabled) b fun stage left => j.Proceeds before left stage := by
  cases kind : j.kind with
  | keeper =>
      refine (Keeper.survey_goes disposal b).bind ?_
      rintro (_ | batch) left fresh
      · exact pause_goes j before left .keeper enabled
      · exact Goes.pure (Or.inl (fresh batch rfl))
  | health =>
      refine (Health.survey_goes b).bind ?_
      rintro (_ | round) left locked
      · exact pause_goes j before left .health enabled
      · exact Goes.pure ⟨Or.inl kind, locked round rfl⟩
  | management =>
      exact Goes.books.bind fun _ _ _ => (Goes.log _).bind fun _ _ _ =>
        (Goes.apply (Policy.changes_beginTick _ _)).bind fun _ _ _ => Goes.pure trivial

theorem run_goes (j : Job) (before b : Books)
    (disposal : ∀ count, allowed (.operate (.dispose count))) :
    Goes allowed j.run b fun stage left => j.Proceeds before left stage := by
  have looped : ∀ b', Goes allowed (loop j.kind j.enabled) b'
      fun stage left => j.Proceeds before left stage := by
    intro b'
    unfold loop
    split
    · exact cycle_goes j before b' j.enabled disposal
    · exact finish_goes j before b' j.kind
  unfold run
  split
  · refine (Goes.apply ?_).bind fun _ b' _ => looped b'
    exact Policy.changes_start _ b
  · exact looped b

theorem wake_goes (j : Job) (nap : Nap) (before b : Books)
    (disposal : ∀ count, allowed (.operate (.dispose count))) :
    Goes allowed (j.wake nap) b fun stage left => j.Proceeds before left stage := by
  unfold wake
  split
  · refine Goes.books.bind fun seen b' _ => ?_
    cases nap.wake? seen.settings.alarm seen.clock with
    | some wake => exact Goes.pure trivial
    | none => exact cycle_goes j before b' j.enabled disposal
  · exact finish_goes j before b j.kind

theorem collect_goes (j : Job) {batch : Keeper.Batch} {call : Resource} {supply : Supply}
    (before b : Books) (standing : j.stage = .creating batch)
    (ended : (call, supply) ∈ batch.ended)
    (entry : ∀ made, (∀ r ∈ made, r ∈ batch.resources) →
      allowed (.operate (.admitAvailable made batch.generation))) :
    Goes allowed (j.collect batch call supply) b
      fun stage left => j.Proceeds before left stage := by
  refine (Keeper.collect_goes ended b entry).bind ?_
  rintro (_ | next) left rest
  · exact pause_goes j before left j.kind j.enabled
  · obtain ⟨generation, resources⟩ := rest next rfl
    exact Goes.pure (Or.inr ⟨batch, standing, generation, fun r member =>
      Or.inl (resources r member)⟩)

theorem judge_goes (j : Job) (round : Health.Round) (verdict : Verdict) (before b : Books)
    (standing : j.stage = .checking round)
    (removal : verdict.condemns = true → allowed (.operate (.remove round.slot))) :
    Goes allowed (j.judge round verdict) b fun stage left => j.Proceeds before left stage := by
  cases verdict with
  | panicked text => exact (Goes.apply (.letGo _ _)).bind fun _ _ _ => Goes.pure trivial
  | sound | broken | failed =>
      refine (Health.judge_goes round _ b removal).bind ?_
      rintro (_ | next) left locked
      · exact pause_goes j before left j.kind j.enabled
      · exact Goes.pure ⟨Or.inr ⟨round, standing⟩, locked next rfl⟩

theorem closeTick_goes (j : Job) (outcome : Except String Unit) (before b : Books) :
    Goes allowed (j.closeTick outcome) b fun stage left => j.Proceeds before left stage := by
  have closed : ∀ label b', Goes allowed (do
      Work.log (.policyCycleEnd label)
      pause j.kind j.enabled) b' fun stage left => j.Proceeds before left stage :=
    fun _ _ => (Goes.log _).bind fun _ left _ => pause_goes j before left j.kind j.enabled
  have failed : ∀ label text b', Goes allowed (do
      Work.log (.policyFailed label text)
      Work.log (.policyCycleEnd label)
      pause j.kind j.enabled) b' fun stage left => j.Proceeds before left stage :=
    fun _ _ _ => (Goes.log _).bind fun _ _ _ => closed _ _
  refine Goes.books.bind ?_
  rintro _ b' ⟨rfl, rfl⟩
  cases outcome with
  | ok => exact closed _ _
  | error text =>
      simp only
      split
      · exact (Goes.apply (.note _ fun _ => by simp)).bind fun _ _ _ =>
          (Goes.throw _).bind fun _ _ (_ : True) => failed _ _ _
      · exact failed _ _ _

theorem attempt_goes {tick : Tick Unit} {b : Books} (changes : Changes allowed b (tick.after b).2) :
    Goes allowed (attempt tick) b fun _ _ => True :=
  ⟨changes, fun _ _ => trivial⟩

theorem resolved_goes (j : Job) (hostname : String) (resolution : Policy.Resolution)
    (before b : Books) (clearing : allowed (.operate .clear)) :
    Goes allowed (j.resolved hostname resolution) b
      fun stage left => j.Proceeds before left stage :=
  (attempt_goes (Policy.changes_watch clearing hostname resolution b)).bind
    fun outcome left _ => closeTick_goes j outcome before left

theorem tick_goes (j : Job) (acts : List Policy.Act) (ending : Policy.Ending) (before b : Books)
    (clearing : allowed (.operate .clear)) :
    Goes allowed (j.tick acts ending) b fun stage left => j.Proceeds before left stage := by
  refine (attempt_goes (Policy.changes_acts clearing acts b)).bind ?_
  rintro (text | _) left _
  · exact closeTick_goes j _ before left
  · cases ending with
    | waiting | panicked => exact Goes.pure trivial
    | done | failed => exact closeTick_goes j _ before left

/-- Clearing by acts or by a watch, as far as it got, stands when the tick goes on. -/
theorem changes_tick (j : Job) (acts : List Policy.Act) (ending : Policy.Ending) (b : Books) :
    Changes allowed ((Policy.acts acts).after b).2 ((j.tick acts ending).after b).2 := by
  refine Work.bind_keeps (P := Changes allowed ((Policy.acts acts).after b).2) (.refl _) ?_
  rintro (text | _) left changes
  · exact changes.trans (closeTick_goes j _ left left).changes
  · cases ending with
    | waiting | panicked => exact changes
    | done | failed => exact changes.trans (closeTick_goes j _ left left).changes

theorem changes_resolved (j : Job) (hostname : String) (resolution : Policy.Resolution)
    (b : Books) :
    Changes allowed ((Policy.watch hostname resolution).after b).2
      ((j.resolved hostname resolution).after b).2 :=
  Work.bind_keeps (P := Changes allowed ((Policy.watch hostname resolution).after b).2) (.refl _)
    fun outcome left changes => changes.trans (closeTick_goes j outcome left left).changes

theorem launch_goes (j : Job) (batch : Keeper.Batch) (b : Books)
    (standing : j.stage = .creating batch) (call : allowed .callFactory) :
    Goes allowed (Stage.creating <$> modifyGet batch.launch) b
      fun stage left => j.Proceeds b left stage := by
  refine Goes.map ((Goes.modifyGet ?_).weaken ?_)
  · exact .callFactory b call
  rintro _ _ ⟨rfl, rfl⟩
  refine Or.inr ⟨batch, standing, rfl, fun r member => ?_⟩
  have begun : b.calls < (batch.launch b).2.calls := Nat.lt_succ_self _
  have launched : r ∈ batch.resources ∨ r = b.calls := by
    simp only [Keeper.Batch.launch, Keeper.Batch.resources, Books.callFactory, List.mem_append,
      List.mem_singleton] at member ⊢
    tauto
  exact launched.imp_right fun new => ⟨new, new ▸ begun⟩

theorem deliver_goes (j : Job) (batch : Keeper.Batch) (call : Resource) (supply : Supply)
    (before b : Books) (standing : j.stage = .creating batch) (running : call ∈ batch.running) :
    Goes allowed (Stage.creating <$> modifyGet (batch.deliver call supply)) b
      fun stage left => j.Proceeds before left stage := by
  refine Goes.map ((Goes.modifyGet (.endCall b call supply)).weaken ?_)
  rintro _ _ ⟨rfl, -⟩
  refine Or.inr ⟨batch, standing, rfl, fun r member => Or.inl ?_⟩
  simp only [Keeper.Batch.deliver, Keeper.Batch.resources, List.mem_append, List.map_append,
    List.map_cons, List.map_nil, List.mem_singleton] at member ⊢
  rcases member with (out | ended | rfl) | made
  · exact Or.inl (Or.inl (List.mem_of_mem_erase out))
  · exact Or.inl (Or.inr ended)
  · exact Or.inl (Or.inl running)
  · exact Or.inr made

/-- The stage in which a job answers a signal, and the work that it does then. -/
inductive Responds (j : Job) (b : Books) : Signal → Work Stage → Prop
  | run : j.stage = .spawned → j.Responds b .run j.run
  | wake {nap : Nap} {due : Nat} : j.stage = .sleeping nap due → due ≤ b.clock →
      j.Responds b .wake (j.wake nap)
  | launch {batch : Keeper.Batch} : j.stage = .creating batch → 0 < batch.waiting →
      j.Responds b .launch (Stage.creating <$> modifyGet batch.launch)
  | deliver {batch : Keeper.Batch} {call : Resource} (supply : Supply) :
      j.stage = .creating batch → call ∈ batch.running →
      j.Responds b (.deliver call supply) (Stage.creating <$> modifyGet (batch.deliver call supply))
  | collect {batch : Keeper.Batch} {call : Resource} {supply : Supply} :
      j.stage = .creating batch → (call, supply) ∈ batch.ended →
      j.Responds b (.collect call supply) (j.collect batch call supply)
  | judge {round : Health.Round} (verdict : Verdict) : j.stage = .checking round →
      j.Responds b (.judge verdict) (j.judge round verdict)
  | resolved {hostname : String} (resolution : Policy.Resolution) : j.stage = .ticking →
      policyOf b = .addresses hostname → j.kind = .management →
      j.Responds b (.resolved resolution) (j.resolved hostname resolution)
  | tick {label : String} (acts : List Policy.Act) (ending : Policy.Ending) :
      j.stage = .ticking → policyOf b = .custom label → j.kind = .management →
      j.Responds b (.tick acts ending) (j.tick acts ending)

section
variable {j : Job} {b : Books} {signal : Signal} {work : Work Stage}

theorem responds (answered : j.respond b signal = some work) : j.Responds b signal work := by
  unfold respond at answered
  cases signal with
  | run =>
      simp only at answered
      split at answered <;> cases answered
      exact .run ‹_›
  | wake =>
      simp only at answered
      split at answered
      · split at answered <;> cases answered
        exact .wake ‹_› ‹_›
      · contradiction
  | launch =>
      simp only at answered
      split at answered
      · split at answered <;> cases answered
        exact .launch ‹_› ‹_›
      · contradiction
  | deliver call supply =>
      simp only at answered
      split at answered
      · split at answered
        · cases answered
          exact .deliver supply ‹_› ‹_›
        · contradiction
      · contradiction
  | collect call supply =>
      simp only at answered
      split at answered
      · split at answered <;> cases answered
        exact .collect ‹_› ‹_›
      · contradiction
  | judge verdict =>
      simp only at answered
      split at answered <;> cases answered
      exact .judge verdict ‹_›
  | resolved resolution =>
      simp only at answered
      split at answered
      · split at answered <;> cases answered
        exact .resolved resolution ‹_› ‹_› ‹_›
      · contradiction
  | tick acts ending =>
      simp only at answered
      split at answered
      · split at answered <;> cases answered
        exact .tick acts ending ‹_› ‹_› ‹_›
      · contradiction

/-- A job that is over answers nothing. -/
theorem Responds.not_isOver (responds : j.Responds b signal work) : j.isOver = false := by
  unfold isOver
  split
  · rename_i standing
    cases responds <;> simp_all
  · rfl

/-- What a job does in answer to a signal is warranted by its stage and the signal. -/
theorem Responds.goes (responds : j.Responds b signal work) (b' : Books) :
    Goes (j.Warrants signal) work b' fun stage left => j.Proceeds b' left stage := by
  have disposal : ∀ count, j.Warrants signal (.operate (.dispose count)) := fun _ => trivial
  cases responds with
  | run standing => exact run_goes j b' b' disposal
  | @wake nap due standing passed => exact wake_goes j nap b' b' disposal
  | @launch batch standing waiting => exact launch_goes j batch b' standing rfl
  | @deliver batch call supply standing running =>
      exact deliver_goes j batch call supply b' b' standing running
  | collect standing ended =>
      refine collect_goes j b' b' standing ended fun made own r member => ?_
      rw [standing]
      exact ⟨rfl, own r member⟩
  | @judge round verdict standing =>
      exact judge_goes j round verdict b' b' standing fun condemned =>
        ⟨round, verdict, standing, rfl, rfl, condemned⟩
  | resolved resolution standing => exact resolved_goes j _ resolution b' b' standing
  | tick acts ending standing => exact tick_goes j acts ending b' b' standing

end

theorem changes_supervise (kind : JobKind) (failure : Failure) (b : Books) :
    Changes allowed b (supervise kind failure b) := by
  have noted (report : Books) : Changes allowed report
      (report.note (.terminating kind failure.message)) := .note report fun _ => by simp
  unfold supervise
  simp only
  split
  · exact ((Changes.tell b _).trans (noted _)).trans (.aside rfl rfl rfl)
  · exact .tell b _

/-- What a turn does apart from its work. -/
theorem turn_changes (j : Job) (id : JobId) (work : Work Stage) (b : Books) :
    Changes allowed (work.after { b with actor := some id }).2 (j.turn id work b).2 := by
  unfold turn
  rcases ended : work.after { b with actor := some id } with ⟨failure | stage, left⟩ <;>
    simp only [Work.after] at ended <;> simp only [ended]
  · exact (changes_supervise _ _ _).trans (.aside rfl rfl rfl)
  · exact .aside rfl rfl rfl

/-- A turn makes warranted changes only, and leaves the job where its stage and the books
say it may be. -/
theorem turn_spec {j : Job} {b : Books} {signal : Signal} {work : Work Stage}
    (answered : j.respond b signal = some work) (id : JobId) :
    Changes (j.Warrants signal) b (j.turn id work b).2 ∧
      (j.turn id work b).1.kind = j.kind ∧
      j.Proceeds b (j.turn id work b).2 (j.turn id work b).1.stage := by
  obtain ⟨changes, answers⟩ := (responds answered).goes { b with actor := some id }
  have begun : Changes (j.Warrants signal) b { b with actor := some id } := .aside rfl rfl rfl
  refine ⟨(begun.trans changes).trans (j.turn_changes id work b), rfl, ?_⟩
  unfold turn
  rcases ended : work.after { b with actor := some id } with ⟨failure | stage, left⟩ <;>
    rw [ended] at answers <;> simp only [Work.after] at ended <;> simp only [ended]
  · trivial
  · exact answers stage rfl

/-! ## Condemned slots -/

section
variable {j : Job} {b : Books} {round : Health.Round} {verdict : Verdict}

theorem judge_lacks (sound : b.store.Sound) (opened : round.slot.number < b.store.nextId)
    (condemned : verdict.condemns = true)
    (heard : ∀ text, verdict = .failed text →
      b.sink b.journal (.checkFailed round.slot text) = none) :
    ((j.judge round verdict).after b).2.Lacks round.slot := by
  have judged := Health.judge_lacks sound opened condemned heard
  have going : ∀ answer b', b'.Lacks round.slot → ((match answer with
      | some round => pure (.checking round)
      | none => pause j.kind j.enabled : Work Stage).after b').2.Lacks round.slot := by
    rintro (_ | next) b' lacks
    · have goes : Goes (fun _ => True) (pause j.kind j.enabled) b' _ :=
        pause_goes j b' b' j.kind j.enabled
      exact goes.changes.lacks lacks
    · exact lacks
  cases verdict with
  | broken | failed => exact Work.bind_keeps (P := (Books.Lacks · round.slot)) judged going
  | sound | panicked => contradiction

theorem judge_refused {text : String} {refusal : Refusal}
    (refused : b.sink b.journal (.checkFailed round.slot text) = some refusal) :
    (j.judge round (.failed text)).after b =
      (.error (.logging refusal),
        (b.letGo round.resource).tell (.checkFailed round.slot text)) := by
  have judged := Health.judge_refused refused
  unfold judge
  rw [Work.after_bind, judged]

theorem turn_lacks {id : JobId} {work : Work Stage} {slot : SlotId}
    (lacks : (work.after { b with actor := some id }).2.Lacks slot) :
    (j.turn id work b).2.Lacks slot := by
  have changes : Changes (fun _ => True) _ _ := j.turn_changes id work b
  exact changes.lacks lacks

theorem turn_error {id : JobId} {work : Work Stage} {failure : Failure} {left : Books}
    (ended : work.after { b with actor := some id } = (.error failure, left)) :
    j.turn id work b =
      ({ j with stage := .ended none }, { supervise j.kind failure left with actor := none }) := by
  simp only [Work.after] at ended
  simp only [turn, ended]

end
end Job
end ResourcePool
