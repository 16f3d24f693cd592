import ResourcePool.Proofs.Holdings.Books
import ResourcePool.Proofs.Upkeep.Batch

/-! What a job keeps between two turns. A turn gives up what it began with for what its new
stage keeps, and keeps nothing when it is cut short. -/
namespace ResourcePool
open Books (Trades)

variable {given passed : Multiset Resource}

namespace Work
variable {α β : Type} {w : Work α} {left : α → Multiset Resource} {b : Books}

/-- What is left in the hands of a stretch: nothing if it was cut short. -/
def rest (left : α → Multiset Resource) : Except Failure α → Multiset Resource
  | .ok a => left a
  | .error _ => 0

/-- From some books a stretch gives up what it has for what it leaves with its answer. -/
def Hands (given : Multiset Resource) (w : Work α) (left : α → Multiset Resource) (b : Books) :
    Prop :=
  Trades b (w.after b).2 given (rest left (w.after b).1)

namespace Hands

theorem pure {a : α} (same : left a = given) : Hands given (Pure.pure a) left b :=
  same ▸ .refl b (left a)

theorem throw (failure : Failure) : Hands 0 (MonadExcept.throw failure : Work α) left b :=
  .refl b 0

theorem apply {change : Books → Books} (trades : Trades b (change b) given passed) :
    Hands given (Work.apply change) (fun _ => passed) b := trades

theorem modifyGet {change : Books → α × Books}
    (trades : Trades b (change b).2 given (left (change b).1)) :
    Hands given (MonadStateOf.modifyGet change : Work α) left b := trades

/-- Whoever is left with nothing when he is cut short may offer an event. -/
theorem log (event : Event) : Hands 0 (Work.log event) (fun _ => 0) b := by
  have told := Trades.tell b event 0
  unfold Hands
  rw [after_log]
  cases b.sink b.journal event <;> exact told

theorem bind {middle : α → Multiset Resource} {next : α → Work β} {left : β → Multiset Resource}
    (first : Hands given w middle b) (rest : ∀ a b', Hands (middle a) (next a) left b') :
    Hands given (w >>= next) left b := by
  unfold Hands at first ⊢
  rw [after_bind]
  rcases ended : w.after b with ⟨_ | a, b'⟩ <;> rw [ended] at first
  · exact first
  · exact first.trans (rest a b')

/-- Work that looks at the books goes on with them as they are. -/
theorem books {next : Books → Work α} (hands : Hands given (next b) left b) :
    Hands given (Work.books >>= next) left b := hands

theorem map {f : α → β} {left : β → Multiset Resource}
    (hands : Hands given w (fun a => left (f a)) b) : Hands given (f <$> w) left b := by
  unfold Hands at hands ⊢
  rw [after_map]
  rcases ended : w.after b with ⟨_ | a, b'⟩ <;> rw [ended] at hands <;> exact hands

end Hands
end Work

open Work (Hands)

/-! ## The keeper -/

namespace Keeper
variable {b : Books}

/-- What the ended calls of a batch made. -/
def Batch.holdings (batch : Batch) : Multiset Resource :=
  batch.made + madeIn batch.ended

theorem survey_hands : Hands 0 survey (fun batch => batch.elim 0 Batch.holdings) b := by
  refine (Hands.log _).bind fun _ _ => .books ?_
  simp only
  split
  · exact (Hands.log _).bind fun _ _ => .pure rfl
  · split
    · have disposed (b : Books) (count : Nat) :
          Trades b ((({ b with store := (b.store.dispose count).2 } : Books).count .disposed
            (b.store.dispose count).1.length).letGoAll (b.store.dispose count).1) 0 0 := by
        have out : Trades b { b with store := (b.store.dispose count).2 } 0
            ↑(b.store.dispose count).1 := by
          refine .restock (·.dispose count) fun sound => ?_
          rw [add_zero, Store.holdings_dispose sound count, add_comm]
        exact (out.trans (.count _ .disposed _ _)).trans (.letGoAll _ _)
      refine (Hands.log _).bind fun _ b => Hands.bind (Hands.modifyGet (disposed b _)) fun _ _ =>
        (Hands.log _).bind fun _ _ => .pure rfl
    · exact (Hands.log _).bind fun _ _ => .pure rfl

/-- A refusal to hear of a failed call lets go of everything that was made. -/
theorem logFailure_hands (needed : Nat) (error : String) (made : List Resource) :
    Hands made (logFailure needed error made) (fun _ => made) b := by
  have offered : Trades b ((b.count .factoryFailures 1).offer (.creationFailed needed error)).2
      made made := (Trades.count b .factoryFailures 1 _).trans (.tell _ _ _)
  unfold Hands
  rw [logFailure_after]
  rcases heard : (b.count .factoryFailures 1).offer (.creationFailed needed error) with
    ⟨_ | refusal, told⟩ <;> rw [heard] at offered
  · exact offered
  · exact offered.trans (.letGoAll told made)

theorem madeIn_one (call : Resource) (supply : Supply) :
    (madeIn [(call, supply)] : Multiset Resource) = supply.holdings call := by
  cases supply <;> rfl

/-- What a call made is kept, or let go of with all the rest. -/
theorem note_hands (batch : Batch) (call : Resource) (supply : Supply) :
    Hands (batch.holdings + supply.holdings call) (note batch call supply) Batch.holdings b := by
  unfold note
  cases supply with
  | made =>
      refine .pure ?_
      simp only [Batch.holdings, Supply.holdings, ← Multiset.coe_add]
      ac_rfl
  | failed | panicked =>
      simp only [Supply.holdings, add_zero, Batch.holdings, Multiset.coe_add]
      exact (logFailure_hands batch.needed _ _).bind fun _ _ => .pure rfl

theorem holdings_join {batch : Batch} {call : Resource} {supply : Supply}
    (ended : (call, supply) ∈ batch.ended) :
    (batch.join call supply).holdings + supply.holdings call = batch.holdings := by
  have apart : (madeIn batch.ended).Perm (madeIn [(call, supply)] ++
      madeIn (batch.join call supply).ended) := by
    rw [← madeIn_append]
    exact ((List.perm_cons_erase ended).filter _).map _
  rw [Batch.holdings, Batch.holdings, Multiset.coe_eq_coe.mpr apart, ← madeIn_one,
    ← Multiset.coe_add]
  exact (add_assoc _ _ _).trans (congrArg _ (add_comm _ _))

theorem admitBatch_hands (generation : Nat) (made : List Resource) :
    Hands made (admitBatch generation made) (fun _ => 0) b := by
  unfold admitBatch
  split
  · rename_i none
    rw [List.isEmpty_iff.mp none]
    exact .pure rfl
  · refine (Hands.apply (.count b .created made.length made)).bind fun _ b => .books ?_
    cases admitted : b.store.admitAvailable made generation with
    | none =>
        exact (Hands.apply (.letGoAll b made)).bind fun _ _ => .log _
    | some store =>
        have pooled : Trades b { b with store } made 0 :=
          .restock (fun sound => sound.admitAvailable admitted) fun sound => by
            rw [Store.holdings_admitAvailable sound admitted, add_zero, add_comm]
        exact (Hands.apply pooled).bind fun _ _ => .log _

theorem collect_hands {batch : Batch} {call : Resource} {supply : Supply}
    (ended : (call, supply) ∈ batch.ended) : Hands batch.holdings (collect batch call supply)
      (fun batch => batch.elim 0 Batch.holdings) b := by
  rw [← holdings_join ended]
  refine (note_hands _ call supply).bind fun noted b => ?_
  split
  · rename_i complete
    obtain ⟨_, _, empty⟩ := Batch.isComplete_iff.mp complete
    have made : noted.holdings = noted.made := by
      rw [Batch.holdings, empty]
      exact add_zero _
    rw [made]
    exact (admitBatch_hands _ noted.made).bind fun _ _ => .pure rfl
  · exact .pure rfl

end Keeper

/-! ## The health job -/

namespace Health
variable {b : Books}

/-- What a cycle keeps during a check. -/
def Round.holdings (round : Round) : Multiset Resource := {round.resource}

/-- The resource of a slot is kept from the begin of its check. -/
theorem seek_hands (checked locked : Nat) (slots : List SlotId) :
    Hands 0 (seek checked locked slots) (fun round => round.elim 0 Round.holdings) b := by
  induction slots generalizing locked b with
  | nil =>
      exact (Hands.log _).bind fun _ _ => (Hands.log _).bind fun _ _ => (Hands.log _).bind
        fun _ _ => .pure rfl
  | cons slot rest ih =>
      refine Hands.books ?_
      cases b.store.lockAvailable slot with
      | none => exact (Hands.log _).bind fun _ _ => ih locked
      | some resource =>
          exact (Hands.log _).bind fun _ _ => (Hands.log _).bind fun _ b =>
            (Hands.apply (.take b resource)).bind fun _ _ => .pure rfl

theorem survey_hands : Hands 0 survey (fun round => round.elim 0 Round.holdings) b :=
  (Hands.log _).bind fun _ _ => .books ((Hands.log _).bind fun _ _ => seek_hands _ _ _)

theorem refused_hands (refusal : Option Refusal) : Hands 0 (match refusal with
    | some refusal => throw (.logging refusal)
    | none => pure () : Work Unit) (fun _ => 0) b := by
  cases refusal with
  | none => exact .pure rfl
  | some refusal => exact .throw _

theorem evict_hands (slot : SlotId) : Hands 0 (evict slot) (fun _ => 0) b := by
  have told (b : Books) : Hands 0 (modifyGet fun b => b.offer (.evicting slot)) (fun _ => 0) b :=
    Trades.tell b _ 0
  have removed (b : Books) : Hands 0 (modifyGet fun b => b.remove slot) (fun _ => 0) b :=
    Trades.remove b slot
  refine (told b).bind fun refusal b => (removed b).bind fun was b => ?_
  cases was with
  | false => exact refused_hands refusal
  | true => exact (Hands.apply (.count b .evicted 1 0)).bind fun _ _ => refused_hands refusal

theorem conclude_hands (slot : SlotId) (verdict : Verdict) :
    Hands 0 (conclude slot verdict) (fun _ => 0) b := by
  cases verdict with
  | sound => exact .log _
  | broken => exact evict_hands slot
  | failed text => exact (Hands.log _).bind fun _ _ => evict_hands slot
  | panicked text => exact .pure rfl

theorem judge_hands (round : Round) (verdict : Verdict) :
    Hands round.holdings (judge round verdict) (fun round => round.elim 0 Round.holdings) b :=
  (Hands.apply (.letGo b round.resource)).bind fun _ _ =>
    (conclude_hands round.slot verdict).bind fun _ _ => seek_hands _ _ _

end Health

/-! ## Policies -/

namespace Tick
variable {α β : Type} {tick : Tick α} {b : Books}

/-- A stretch of a tick has nothing and is left with nothing. -/
def Idles (tick : Tick α) : Prop := ∀ b, Trades b (tick.after b).2 0 0

theorem Idles.bind {next : α → Tick β} (first : Idles tick) (rest : ∀ a, Idles (next a)) :
    Idles (tick >>= next) := by
  intro b
  have begun := first b
  rw [after_bind]
  rcases ended : tick.after b with ⟨_ | a, b'⟩ <;> rw [ended] at begun
  · exact begun
  · exact begun.trans (rest a b')

theorem Idles.apply {change : Books → Books} (trades : ∀ b, Trades b (change b) 0 0) :
    Idles (Tick.apply change) := trades

theorem Idles.log (event : Event) : Idles (Tick.log event) := by
  unfold Tick.log
  refine Idles.bind (fun b => .tell b event 0) fun refusal => ?_
  cases refusal <;> exact fun b => .refl b 0

end Tick

namespace Policy
open Tick (Idles)

theorem act_idles (act : Act) : Idles (Policy.act act) := by
  cases act with
  | clear => exact .apply .clear
  | log event => exact .log event
  | tell event => exact .apply fun b => .tell b event 0
  | readPopulation | readId => exact .apply fun b => .note b _ 0

theorem acts_idle (acts : List Act) : Idles (Policy.acts acts) := by
  induction acts with
  | nil => exact fun b => .refl b 0
  | cons act rest ih => exact (act_idles act).bind fun _ => ih

theorem watch_idles (hostname : String) (resolution : Resolution) :
    Idles (watch hostname resolution) := by
  cases resolution with
  | error text => exact .log _
  | ok found =>
      refine Idles.bind (fun b => .refl b 0) fun seen => ?_
      simp only
      split
      · exact (Idles.log _).bind fun _ => (Idles.apply .clear).bind fun _ =>
          .apply fun b => .aside rfl rfl
      · exact fun b => .refl b 0

theorem start_trades (policy : Policy) (b : Books) : Trades b (policy.start b) 0 0 := by
  cases policy <;> exact .aside rfl rfl

theorem beginTick_trades (policy : Policy) (b : Books) : Trades b (policy.beginTick b) 0 0 := by
  cases policy <;> exact .aside rfl rfl

end Policy

/-! ## Turns -/

/-- What a job keeps between two turns. What a running call of the factory will make is nobody's
yet. -/
def Stage.holdings : Stage → Multiset Resource
  | .creating batch => batch.holdings
  | .checking round => round.holdings
  | _ => 0

namespace Job
variable {b : Books}

theorem finish_hands (kind : JobKind) : Hands 0 (finish kind) Stage.holdings b := by
  cases kind with
  | keeper | health => exact (Hands.log _).bind fun _ _ => .pure rfl
  | management =>
      exact (Hands.apply (.note b _ 0)).bind fun _ _ => .books
        ((Hands.log _).bind fun _ _ => .pure rfl)

theorem pause_hands (kind : JobKind) (enabled : Bool) :
    Hands 0 (pause kind enabled) Stage.holdings b := by
  refine .books ?_
  cases nap? b kind with
  | none => exact .pure rfl
  | some nap =>
      cases enabled with
      | true => exact .pure rfl
      | false => exact finish_hands kind

theorem cycle_hands (kind : JobKind) (enabled : Bool) :
    Hands 0 (cycle kind enabled) Stage.holdings b := by
  cases kind with
  | keeper =>
      refine Keeper.survey_hands.bind fun batch b => ?_
      cases batch with
      | none => exact pause_hands .keeper enabled
      | some batch => exact .pure rfl
  | health =>
      refine Health.survey_hands.bind fun round b => ?_
      cases round with
      | none => exact pause_hands .health enabled
      | some round => exact .pure rfl
  | management =>
      exact .books ((Hands.log _).bind fun _ b =>
        (Hands.apply (Policy.beginTick_trades _ b)).bind fun _ _ => .pure rfl)

theorem run_hands (j : Job) : Hands 0 j.run Stage.holdings b := by
  have looped (b : Books) : Hands 0 (loop j.kind j.enabled) Stage.holdings b := by
    unfold loop
    split
    · exact cycle_hands j.kind j.enabled
    · exact finish_hands j.kind
  unfold run
  split
  · exact (Hands.apply (Policy.start_trades (policyOf b) b)).bind fun _ b => looped b
  · exact looped b

theorem wake_hands (j : Job) (nap : Nap) : Hands 0 (j.wake nap) Stage.holdings b := by
  unfold wake
  split
  · refine .books ?_
    cases nap.wake? b.settings.alarm b.clock with
    | some wake => exact .pure rfl
    | none => exact cycle_hands j.kind j.enabled
  · exact finish_hands j.kind

theorem collect_hands (j : Job) {batch : Keeper.Batch} {call : Resource} {supply : Supply}
    (ended : (call, supply) ∈ batch.ended) :
    Hands batch.holdings (j.collect batch call supply) Stage.holdings b := by
  refine (Keeper.collect_hands ended).bind fun rest b => ?_
  cases rest with
  | none => exact pause_hands j.kind j.enabled
  | some batch => exact .pure rfl

theorem judge_hands (j : Job) (round : Health.Round) (verdict : Verdict) :
    Hands round.holdings (j.judge round verdict) Stage.holdings b := by
  cases verdict with
  | panicked text =>
      exact (Hands.apply (.letGo b round.resource)).bind fun _ _ => .pure rfl
  | sound | broken | failed =>
      refine (Health.judge_hands round _).bind fun next b => ?_
      cases next with
      | none => exact pause_hands j.kind j.enabled
      | some round => exact .pure rfl

theorem closeTick_hands (j : Job) (outcome : Except String Unit) :
    Hands 0 (j.closeTick outcome) Stage.holdings b := by
  have closed (label : String) (b : Books) : Hands 0 (do
      Work.log (.policyCycleEnd label)
      pause j.kind j.enabled) Stage.holdings b :=
    (Hands.log _).bind fun _ _ => pause_hands j.kind j.enabled
  refine .books ?_
  cases outcome with
  | ok => exact closed _ b
  | error text =>
      have failed (b : Books) (label : String) : Hands 0 (do
          Work.log (.policyFailed label text)
          Work.log (.policyCycleEnd label)
          pause j.kind j.enabled) Stage.holdings b := (Hands.log _).bind fun _ b => closed _ b
      simp only
      split
      · exact (Hands.apply (.note b _ 0)).bind fun _ b =>
          (Hands.throw _ : Hands 0 _ (fun _ => 0) b).bind fun _ b => failed b _
      · exact failed b _

theorem resolved_hands (j : Job) (hostname : String) (resolution : Policy.Resolution) :
    Hands 0 (j.resolved hostname resolution) Stage.holdings b := by
  have watched : Hands 0 (attempt (Policy.watch hostname resolution)) (fun _ => 0) b :=
    Policy.watch_idles hostname resolution b
  exact watched.bind fun outcome b => closeTick_hands j outcome

theorem tick_hands (j : Job) (acts : List Policy.Act) (ending : Policy.Ending) :
    Hands 0 (j.tick acts ending) Stage.holdings b := by
  have acted : Hands 0 (attempt (Policy.acts acts)) (fun _ => 0) b := Policy.acts_idle acts b
  refine acted.bind fun outcome b => ?_
  cases outcome with
  | error text => exact closeTick_hands j _
  | ok =>
      cases ending with
      | waiting | panicked => exact .pure rfl
      | done | failed => exact closeTick_hands j _

/-- A call that the factory answers leaves what it made with the batch. -/
theorem deliver_hands (batch : Keeper.Batch) (call : Resource) (supply : Supply) :
    Hands batch.holdings (Stage.creating <$> modifyGet (batch.deliver call supply))
      Stage.holdings b := by
  have ended := (Trades.endCall b call supply).beside batch.holdings
  have made : (batch.deliver call supply b).1.holdings = supply.holdings call + batch.holdings := by
    simp only [Keeper.Batch.deliver, Keeper.Batch.holdings, Keeper.madeIn_append,
      ← Keeper.madeIn_one, ← Multiset.coe_add]
    ac_rfl
  rw [zero_add, ← made] at ended
  exact Hands.map (.modifyGet ended)

/-- Work in answer to a signal hands on what the stage of the job keeps. -/
theorem Responds.hands {j : Job} {b : Books} {signal : Signal} {work : Work Stage}
    (responds : j.Responds b signal work) (b' : Books) :
    Hands j.stage.holdings work Stage.holdings b' := by
  cases responds with
  | run standing => exact standing ▸ run_hands j
  | wake standing => exact standing ▸ wake_hands j _
  | @launch batch standing =>
      have launched : Trades b' (batch.launch b').2 batch.holdings batch.holdings :=
        .aside rfl rfl
      exact standing ▸ Hands.map (.modifyGet launched)
  | @deliver batch call supply standing => exact standing ▸ deliver_hands batch call supply
  | collect standing ended => exact standing ▸ collect_hands j ended
  | @judge round verdict standing => exact standing ▸ judge_hands j round verdict
  | resolved resolution standing => exact standing ▸ resolved_hands j _ resolution
  | tick acts ending standing => exact standing ▸ tick_hands j acts ending

theorem supervise_trades (kind : JobKind) (failure : Failure) (b : Books)
    (given : Multiset Resource) : Trades b (supervise kind failure b) given given := by
  unfold supervise
  simp only
  split <;> exact .aside rfl rfl

/-- A turn gives up what the job kept for what it keeps then. -/
theorem turn_trades {j : Job} {b : Books} {signal : Signal} {work : Work Stage}
    (answered : j.respond b signal = some work) (id : JobId) :
    Trades b (j.turn id work b).2 j.stage.holdings (j.turn id work b).1.stage.holdings := by
  have begun : Trades b { b with actor := some id } j.stage.holdings j.stage.holdings :=
    .aside rfl rfl
  have worked := begun.trans ((responds answered).hands { b with actor := some id })
  have closed (b : Books) (given : Multiset Resource) :
      Trades b { b with actor := none } given given := .aside rfl rfl
  unfold turn
  rcases ended : work.after { b with actor := some id } with ⟨failure | stage, left⟩ <;>
    rw [ended] at worked <;> simp only [Work.after] at ended <;> simp only [ended]
  · exact (worked.trans (supervise_trades j.kind failure left 0)).trans (closed _ _)
  · exact worked.trans (closed _ _)

end Job
end ResourcePool
