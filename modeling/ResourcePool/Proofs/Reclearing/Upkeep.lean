import ResourcePool.Proofs.Reclearing.Books
import ResourcePool.Proofs.Upkeep.Job
import ResourcePool.Proofs.Upkeep.Postings

/-! The work of jobs after the fork: what a stretch does in the first run it does in the second,
and a batch under way keeps the number that its generation has there. -/
namespace ResourcePool

variable {f : Fork} {b b' : Books} {α β : Type}

/-- A stretch of work in the second run goes with one in the first. -/
def Fork.Works (f : Fork) (renumber : α → α) (w w' : Work α) (b b' : Books) : Prop :=
  f.Likewise (Except.map renumber) (w.after b) (w'.after b')

namespace Fork.Works
variable {renumber : α → α} {renumber' : β → β} {w w' : Work α} {next next' : α → Work β}

theorem pure (a : α) (alike : f.Alike b b') :
    f.Works renumber (Pure.pure a) (Pure.pure (renumber a)) b b' := ⟨rfl, alike⟩

theorem throw (failure : Failure) (alike : f.Alike b b') :
    f.Works renumber (MonadExcept.throw failure) (MonadExcept.throw failure) b b' := ⟨rfl, alike⟩

/-- Both fail for the same reason, or both come to answers that go together. -/
theorem cases (works : f.Works renumber w w' b b') :
    (∃ failure c c', w.after b = (.error failure, c) ∧ w'.after b' = (.error failure, c') ∧
      f.Alike c c') ∨
    ∃ a c c', w.after b = (.ok a, c) ∧ w'.after b' = (.ok (renumber a), c') ∧ f.Alike c c' := by
  obtain ⟨answer, books⟩ := works
  rcases ended : w.after b with ⟨failure | a, c⟩ <;> rw [ended] at answer books
  · exact Or.inl ⟨failure, c, _, rfl, Prod.ext answer rfl, books⟩
  · exact Or.inr ⟨a, c, _, rfl, Prod.ext answer rfl, books⟩

theorem bind (first : f.Works renumber w w' b b')
    (rest : ∀ a c c', f.Alike c c' → f.Works renumber' (next a) (next' (renumber a)) c c') :
    f.Works renumber' (w >>= next) (w' >>= next') b b' := by
  unfold Works
  rw [Work.after_bind, Work.after_bind]
  obtain ⟨failure, c, c', ended, ended', alike⟩ | ⟨a, c, c', ended, ended', alike⟩ := first.cases
  · rw [ended, ended']
    exact ⟨rfl, alike⟩
  · rw [ended, ended']
    exact rest a c c' alike

theorem books {next next' : Books → Work β}
    (works : f.Works renumber' (next b) (next' b') b b') :
    f.Works renumber' (Work.books >>= next) (Work.books >>= next') b b' := by
  unfold Works
  rw [Work.after_bind, Work.after_bind]
  exact works

theorem apply {change change' : Books → Books} (alike : f.Alike (change b) (change' b')) :
    f.Works id (Work.apply change) (Work.apply change') b b' := ⟨rfl, alike⟩

theorem modifyGet (change change' : Books → α × Books)
    (likewise : f.Likewise renumber (change b) (change' b')) :
    f.Works renumber (MonadStateOf.modifyGet change : Work α) (MonadStateOf.modifyGet change')
      b b' := ⟨congrArg Except.ok likewise.answer, likewise.books⟩

theorem log {event event' : Event} (events : f.AlikeEvents event event')
    (alike : f.Alike b b') : f.Works id (Work.log event) (Work.log event') b b' := by
  unfold Works
  rw [Work.after_log, Work.after_log, alike.heard events]
  refine ⟨?_, alike.tell events⟩
  cases b.sink b.journal event <;> rfl

theorem tryCatch {handler handler' : Failure → Work α} (first : f.Works renumber w w' b b')
    (rescue : ∀ failure c c', f.Alike c c' →
      f.Works renumber (handler failure) (handler' failure) c c') :
    f.Works renumber (MonadExcept.tryCatch w handler) (MonadExcept.tryCatch w' handler') b b' := by
  unfold Works
  rw [Work.after_tryCatch, Work.after_tryCatch]
  obtain ⟨failure, c, c', ended, ended', alike⟩ | ⟨a, c, c', ended, ended', alike⟩ := first.cases
  · rw [ended, ended']
    exact rescue failure c c' alike
  · rw [ended, ended']
    exact ⟨rfl, alike⟩

theorem map {g : α → β} {g' : α → β} (works : f.Works renumber w w' b b')
    (same : ∀ a, g' (renumber a) = renumber' (g a)) :
    f.Works renumber' (g <$> w) (g' <$> w') b b' := by
  unfold Works
  rw [Work.after_map, Work.after_map]
  obtain ⟨failure, c, c', ended, ended', alike⟩ | ⟨a, c, c', ended, ended', alike⟩ := works.cases
  · rw [ended, ended']
    exact ⟨rfl, alike⟩
  · rw [ended, ended']
    exact ⟨congrArg Except.ok (same a), alike⟩

end Fork.Works

open Fork (Works)

/-! ## The keeper -/

namespace Keeper

theorem dispose_likewise (surplus : Nat) (alike : f.Alike b b') :
    f.Likewise id
      ((b.store.dispose surplus).1, ({ b with store := (b.store.dispose surplus).2 }.count .disposed
        (b.store.dispose surplus).1.length).letGoAll (b.store.dispose surplus).1)
      ((b'.store.dispose surplus).1, ({ b' with store := (b'.store.dispose surplus).2 }.count
        .disposed (b'.store.dispose surplus).1.length).letGoAll (b'.store.dispose surplus).1) := by
  have kept : (b.store.dispose surplus).2.generation = b.store.generation :=
    Store.generation_disposeFrom ..
  rw [alike.store, Store.dispose_renumber]
  exact ⟨rfl, ((alike.stored (kept ▸ alike.reached)).count .disposed _).letGoAll _⟩

theorem survey_works (alike : f.Alike b b') :
    f.Works (Option.map (Batch.renumber f.era)) survey survey b b' := by
  refine (Works.log (.same rfl) alike).bind fun _ c c' alike => .books ?_
  rw [alike.tuning, alike.store, Store.population_renumber]
  simp only
  split
  · refine (Works.log (.same rfl) alike).bind fun _ _ _ alike => ?_
    exact .pure _ alike
  · split
    · refine (Works.log (.same rfl) alike).bind fun _ _ _ alike => ?_
      refine (Works.modifyGet _ _ (dispose_likewise _ alike)).bind fun disposed _ _ alike => ?_
      exact (Works.log (.same rfl) alike).bind fun _ _ _ alike => .pure none alike
    · exact (Works.log (.same rfl) alike).bind fun _ _ _ alike => .pure none alike

theorem logFailure_works (needed : Nat) (error : String) (made : List Resource)
    (alike : f.Alike b b') :
    f.Works id (logFailure needed error made) (logFailure needed error made) b b' := by
  refine (Works.apply (alike.count .factoryFailures 1)).bind fun _ _ _ alike => ?_
  exact (Works.log (.same rfl) alike).tryCatch fun failure _ _ alike =>
    (Works.apply (alike.letGoAll made)).bind fun _ _ _ alike => .throw failure alike

theorem note_works (batch : Batch) (call : Resource) (supply : Supply) (alike : f.Alike b b') :
    f.Works (Batch.renumber f.era) (note batch call supply)
      (note (batch.renumber f.era) call supply) b b' := by
  unfold note
  split
  · exact .pure _ alike
  · exact (logFailure_works batch.needed _ _ alike).bind fun _ _ _ alike => .pure batch alike

theorem admitBatch_works (generation : Nat) (made : List Resource) (alike : f.Alike b b') :
    f.Works id (admitBatch generation made)
      (admitBatch (ResourcePool.renumber f.era generation) made) b b' := by
  unfold admitBatch
  split
  · exact .pure () alike
  · refine (Works.apply (alike.count .created made.length)).bind fun _ c c' alike => .books ?_
    rw [alike.store, Store.admitAvailable_renumber]
    cases admitted : c.store.admitAvailable made generation with
    | none =>
        refine (Works.apply (alike.letGoAll made)).bind fun _ _ _ alike => ?_
        exact .log (.same rfl) alike
    | some store =>
        have kept := Store.generation_admitAvailable admitted
        refine (Works.apply (alike.stored (kept ▸ alike.reached))).bind fun _ _ _ alike => ?_
        exact .log (.same rfl) alike

theorem collect_works (batch : Batch) (call : Resource) (supply : Supply) (alike : f.Alike b b') :
    f.Works (Option.map (Batch.renumber f.era)) (collect batch call supply)
      (collect (batch.renumber f.era) call supply) b b' := by
  refine (note_works (batch.join call supply) call supply alike).bind fun noted _ _ alike => ?_
  have complete : (noted.renumber f.era).isComplete = noted.isComplete := rfl
  rw [complete]
  split
  · exact (admitBatch_works _ noted.made alike).bind fun _ _ _ alike => .pure none alike
  · exact .pure (some noted) alike

theorem launch_likewise (batch : Batch) (alike : f.Alike b b') :
    f.Likewise (Batch.renumber f.era) (batch.launch b) ((batch.renumber f.era).launch b') := by
  obtain ⟨answer, books⟩ := alike.callFactory
  refine ⟨?_, books⟩
  simp only [Batch.launch, answer]
  rfl

theorem deliver_likewise (batch : Batch) (call : Resource) (supply : Supply)
    (alike : f.Alike b b') :
    f.Likewise (Batch.renumber f.era) (batch.deliver call supply b)
      ((batch.renumber f.era).deliver call supply b') :=
  ⟨rfl, alike.endCall call supply⟩

end Keeper

/-! ## The health care job -/

namespace Health

theorem seek_works (checked locked : Nat) (slots : List SlotId) (alike : f.Alike b b') :
    f.Works id (seek checked locked slots) (seek checked locked slots) b b' := by
  induction slots generalizing b b' with
  | nil =>
      refine (Works.log (.same rfl) alike).bind fun _ _ _ alike => ?_
      refine (Works.log (.same rfl) alike).bind fun _ _ _ alike => ?_
      exact (Works.log (.same rfl) alike).bind fun _ _ _ alike => .pure none alike
  | cons slot rest ih =>
      refine .books ?_
      rw [alike.store, Store.lockAvailable_renumber]
      cases b.store.lockAvailable slot with
      | none => exact (Works.log (.same rfl) alike).bind fun _ _ _ alike => ih alike
      | some resource =>
          refine (Works.log (.same rfl) alike).bind fun _ _ _ alike => ?_
          refine (Works.log (.same rfl) alike).bind fun _ _ _ alike => ?_
          exact (Works.apply (alike.take resource)).bind fun _ _ _ alike => .pure _ alike

theorem survey_works (alike : f.Alike b b') : f.Works id survey survey b b' := by
  refine (Works.log (.same rfl) alike).bind fun _ _ _ alike => .books ?_
  rw [alike.store]
  exact (Works.log (.same rfl) alike).bind fun _ _ _ alike => seek_works _ _ _ alike

theorem evict_works (slot : SlotId) (alike : f.Alike b b') :
    f.Works id (evict slot) (evict slot) b b' := by
  refine (Works.modifyGet (·.offer (.evicting slot)) _ (alike.offer (.same rfl))).bind
    fun refusal _ _ alike => ?_
  refine (Works.modifyGet (·.remove slot) _ (alike.remove slot)).bind fun taken _ _ alike => ?_
  have counted : f.Works id (Work.apply (·.count .evicted 1)) (Work.apply (·.count .evicted 1))
      _ _ := .apply (alike.count .evicted 1)
  cases refusal with
  | none =>
      cases taken with
      | false => exact .pure () alike
      | true => exact counted.bind fun _ _ _ alike => .pure () alike
  | some refusal =>
      cases taken with
      | false => exact .throw _ alike
      | true => exact counted.bind fun _ _ _ alike => .throw _ alike

theorem conclude_works (slot : SlotId) (verdict : Verdict) (alike : f.Alike b b') :
    f.Works id (conclude slot verdict) (conclude slot verdict) b b' := by
  cases verdict with
  | sound => exact .log (.same rfl) alike
  | broken => exact evict_works slot alike
  | failed text =>
      exact (Works.log (.same rfl) alike).bind fun _ _ _ alike => evict_works slot alike
  | panicked text => exact .pure () alike

theorem judge_works (round : Round) (verdict : Verdict) (alike : f.Alike b b') :
    f.Works id (judge round verdict) (judge round verdict) b b' := by
  refine (Works.apply (alike.letGo round.resource)).bind fun _ _ _ alike => ?_
  exact (conclude_works round.slot verdict alike).bind fun _ _ _ alike => seek_works _ _ _ alike

end Health

/-! ## Policies -/

namespace Tick

theorem bind_likewise {tick : Tick α} {next : α → Tick β}
    (first : f.Likewise id (tick.after b) (tick.after b'))
    (rest : ∀ a c c', f.Alike c c' → f.Likewise id ((next a).after c) ((next a).after c')) :
    f.Likewise id ((tick >>= next).after b) ((tick >>= next).after b') := by
  obtain ⟨answer, books⟩ := first
  rw [Tick.after_bind, Tick.after_bind]
  rcases ended : tick.after b with ⟨outcome, c⟩
  rcases ended' : tick.after b' with ⟨outcome', c'⟩
  rw [ended, ended'] at answer books
  obtain rfl : outcome' = outcome := answer
  cases outcome' with
  | error text => exact ⟨rfl, books⟩
  | ok a => exact rest a c c' books

theorem get_likewise {next : Books → Tick β}
    (likewise : f.Likewise id ((next b).after b) ((next b').after b')) :
    f.Likewise id ((get >>= next).after b) ((get >>= next).after b') := by
  rw [Tick.after_bind, Tick.after_bind]
  exact likewise

theorem apply_likewise {change : Books → Books} (alike : f.Alike (change b) (change b')) :
    f.Likewise id ((Tick.apply change).after b) ((Tick.apply change).after b') := ⟨rfl, alike⟩

theorem log_likewise {event : Event} (events : f.AlikeEvents event event)
    (alike : f.Alike b b') :
    f.Likewise id ((Tick.log event).after b) ((Tick.log event).after b') := by
  obtain ⟨answer, books⟩ := alike.offer events
  have offered : f.Likewise id
      ((modifyGet fun b => b.offer event : Tick (Option Refusal)).after b)
      ((modifyGet fun b => b.offer event : Tick (Option Refusal)).after b') :=
    ⟨congrArg Except.ok answer, books⟩
  refine bind_likewise offered fun refusal c c' alike => ?_
  cases refusal with
  | none => exact ⟨rfl, alike⟩
  | some refusal => exact ⟨rfl, alike⟩

end Tick

namespace Policy

theorem act_likewise (act : Act) (own : ∀ event, act.event? = some event →
    f.AlikeEvents event event) (alike : f.Alike b b') :
    f.Likewise id ((Policy.act act).after b) ((Policy.act act).after b') := by
  cases act with
  | clear => exact ⟨rfl, alike.clear⟩
  | log event => exact Tick.log_likewise (own event rfl) alike
  | tell event => exact ⟨rfl, alike.tell (own event rfl)⟩
  | readPopulation =>
      have read : b'.store.population = b.store.population := by
        rw [alike.store, Store.population_renumber]
      refine Tick.apply_likewise ?_
      rw [read]
      exact alike.note (.populationRead _)
  | readId =>
      refine Tick.apply_likewise ?_
      rw [alike.poolId]
      exact alike.note (.idRead _)

theorem acts_likewise (acts : List Act)
    (own : ∀ event ∈ acts.filterMap Act.event?, f.AlikeEvents event event)
    (alike : f.Alike b b') :
    f.Likewise id ((Policy.acts acts).after b) ((Policy.acts acts).after b') := by
  induction acts generalizing b b' with
  | nil => exact ⟨rfl, alike⟩
  | cons act rest ih =>
      have first := act_likewise act (fun event offered => own event
        (List.mem_filterMap.mpr ⟨act, List.mem_cons_self, offered⟩)) alike
      refine Tick.bind_likewise first fun _ c c' alike => ih (fun event member => ?_) alike
      obtain ⟨other, later, offered⟩ := List.mem_filterMap.mp member
      exact own event (List.mem_filterMap.mpr ⟨other, List.mem_cons_of_mem _ later, offered⟩)

/-- A policy may clear twice where it comes to a clearing. -/
theorem acts_again {early rest : List Act} {c : Books} {own : Event → Prop}
    (passed : (Policy.acts early).after b = (.ok (), c))
    (sinks : (c.clear.fork own).AlikeSinks c.clear.sink c.clear.sink)
    (offered : ∀ event ∈ rest.filterMap Act.event?, (c.clear.fork own).AlikeEvents event event) :
    (c.clear.fork own).Likewise id ((Policy.acts (early ++ .clear :: rest)).after b)
      ((Policy.acts (early ++ .clear :: .clear :: rest)).after b) := by
  have passes : ((Policy.acts early).after b).1 = .ok () := congrArg Prod.fst passed
  rw [acts_append passes, acts_append passes, passed]
  exact acts_likewise rest offered (Fork.alike_clear_clear c sinks)

theorem watch_likewise (hostname : String) (resolution : Resolution) (alike : f.Alike b b') :
    f.Likewise id ((watch hostname resolution).after b)
      ((watch hostname resolution).after b') := by
  cases resolution with
  | error text => exact Tick.log_likewise (.same rfl) alike
  | ok found =>
      refine Tick.get_likewise ?_
      rw [alike.baseline]
      simp only
      split
      · refine Tick.bind_likewise (Tick.log_likewise (.same rfl) alike) fun _ _ _ alike => ?_
        refine Tick.bind_likewise (Tick.apply_likewise alike.clear) fun _ _ _ alike => ?_
        exact Tick.apply_likewise (alike.rebased _)
      · exact ⟨rfl, alike⟩

theorem start_alike (policy : Policy) (alike : f.Alike b b') :
    f.Alike (policy.start b) (policy.start b') := by
  have noted := alike.note .policyStarted
  cases policy with
  | addresses hostname => exact noted.rebased []
  | custom label => exact noted

theorem beginTick_alike (policy : Policy) (alike : f.Alike b b') :
    f.Alike (policy.beginTick b) (policy.beginTick b') := by
  cases policy with
  | addresses hostname =>
      cases alike with
      | mk reached journals sinks =>
          exact .mk reached (.entry _ _ journals (.resolving hostname _)) sinks
  | custom label => exact alike

end Policy

/-! ## Jobs -/

namespace Job

theorem policyOf_alike (alike : f.Alike b b') : policyOf b' = policyOf b := by
  simp only [policyOf, alike.settings]

theorem nap?_alike (alike : f.Alike b b') (kind : JobKind) : nap? b' kind = nap? b kind := by
  simp only [nap?, alike.settings, alike.tuning, alike.clock]

theorem finish_works (kind : JobKind) (alike : f.Alike b b') :
    f.Works (Stage.renumber f.era) (finish kind) (finish kind) b b' := by
  cases kind with
  | keeper | health => exact (Works.log (.same rfl) alike).bind fun _ _ _ alike => .pure _ alike
  | management =>
      refine (Works.apply (alike.note .policyStopped)).bind fun _ _ _ alike => .books ?_
      rw [policyOf_alike alike]
      exact (Works.log (.same rfl) alike).bind fun _ _ _ alike => .pure _ alike

theorem pause_works (kind : JobKind) (enabled : Bool) (alike : f.Alike b b') :
    f.Works (Stage.renumber f.era) (pause kind enabled) (pause kind enabled) b b' := by
  refine .books ?_
  rw [nap?_alike alike, alike.settings, alike.clock]
  cases nap? b kind with
  | none => exact .pure (Stage.ended (some Nap.overflow)) alike
  | some nap =>
      cases enabled with
      | true => exact .pure _ alike
      | false => exact finish_works kind alike

theorem cycle_works (kind : JobKind) (enabled : Bool) (alike : f.Alike b b') :
    f.Works (Stage.renumber f.era) (cycle kind enabled) (cycle kind enabled) b b' := by
  cases kind with
  | keeper =>
      refine (Keeper.survey_works alike).bind fun answer _ _ alike => ?_
      cases answer with
      | none => exact pause_works .keeper enabled alike
      | some batch => exact .pure (Stage.creating batch) alike
  | health =>
      refine (Health.survey_works alike).bind fun answer _ _ alike => ?_
      cases answer with
      | none => exact pause_works .health enabled alike
      | some round => exact .pure (Stage.checking round) alike
  | management =>
      refine .books ?_
      rw [policyOf_alike alike]
      refine (Works.log (.same rfl) alike).bind fun _ _ _ alike => ?_
      exact (Works.apply (Policy.beginTick_alike _ alike)).bind fun _ _ _ alike => .pure _ alike

theorem loop_works (kind : JobKind) (enabled : Bool) (alike : f.Alike b b') :
    f.Works (Stage.renumber f.era) (loop kind enabled) (loop kind enabled) b b' := by
  cases enabled with
  | true => exact cycle_works kind true alike
  | false => exact finish_works kind alike

theorem run_works (j : Job) (alike : f.Alike b b') :
    f.Works (Stage.renumber f.era) j.run (j.renumber f.era).run b b' := by
  have kind : (j.renumber f.era).kind = j.kind := rfl
  unfold run
  rw [kind]
  split
  · have started : f.Alike ((policyOf b).start b) ((policyOf b').start b') :=
      policyOf_alike alike ▸ Policy.start_alike _ alike
    exact (Works.apply started).bind fun _ _ _ alike => loop_works _ _ alike
  · exact loop_works _ _ alike

theorem wake_works (j : Job) (nap : Nap) (alike : f.Alike b b') :
    f.Works (Stage.renumber f.era) (j.wake nap) ((j.renumber f.era).wake nap) b b' := by
  have enabled : (j.renumber f.era).enabled = j.enabled := rfl
  unfold wake
  rw [enabled]
  split
  · refine .books ?_
    rw [alike.settings, alike.clock]
    split
    · exact .pure _ alike
    · exact cycle_works _ _ alike
  · exact finish_works _ alike

theorem collect_works (j : Job) (batch : Keeper.Batch) (call : Resource) (supply : Supply)
    (alike : f.Alike b b') :
    f.Works (Stage.renumber f.era) (j.collect batch call supply)
      ((j.renumber f.era).collect (batch.renumber f.era) call supply) b b' := by
  refine (Keeper.collect_works batch call supply alike).bind fun answer _ _ alike => ?_
  cases answer with
  | none => exact pause_works j.kind j.enabled alike
  | some batch => exact .pure (Stage.creating batch) alike

theorem judge_works (j : Job) (round : Health.Round) (verdict : Verdict) (alike : f.Alike b b') :
    f.Works (Stage.renumber f.era) (j.judge round verdict)
      ((j.renumber f.era).judge round verdict) b b' := by
  cases verdict with
  | panicked text =>
      exact (Works.apply (alike.letGo round.resource)).bind fun _ _ _ alike => .pure _ alike
  | sound | broken | failed =>
      refine (Health.judge_works round _ alike).bind fun answer _ _ alike => ?_
      cases answer with
      | none => exact pause_works j.kind j.enabled alike
      | some round => exact .pure (Stage.checking round) alike

theorem closeTick_works (j : Job) (outcome : Except String Unit) (alike : f.Alike b b') :
    f.Works (Stage.renumber f.era) (j.closeTick outcome)
      ((j.renumber f.era).closeTick outcome) b b' := by
  have closed (label : String) {c c' : Books} (alike : f.Alike c c') :
      f.Works (Stage.renumber f.era) (do
        Work.log (.policyCycleEnd label)
        pause j.kind j.enabled) (do
        Work.log (.policyCycleEnd label)
        pause j.kind j.enabled) c c' :=
    (Works.log (.same rfl) alike).bind fun _ _ _ alike => pause_works _ _ alike
  refine .books ?_
  rw [policyOf_alike alike, alike.settings]
  cases outcome with
  | ok => exact closed _ alike
  | error text =>
      have failed (label : String) {c c' : Books} (alike : f.Alike c c') :
          f.Works (Stage.renumber f.era) (do
            Work.log (.policyFailed label text)
            Work.log (.policyCycleEnd label)
            pause j.kind j.enabled) (do
            Work.log (.policyFailed label text)
            Work.log (.policyCycleEnd label)
            pause j.kind j.enabled) c c' :=
        (Works.log (.same rfl) alike).bind fun _ _ _ alike => closed label alike
      simp only
      split
      · refine (Works.apply (alike.note .policyStopped)).bind fun _ _ _ alike => ?_
        have thrown : f.Works id (throw (.policy text) : Work Unit) (throw (.policy text)) _ _ :=
          .throw _ alike
        exact thrown.bind fun _ _ _ alike => failed _ alike
      · exact failed _ alike

theorem attempt_works {tick tick' : Tick Unit}
    (likewise : f.Likewise id (tick.after b) (tick'.after b')) :
    f.Works id (attempt tick) (attempt tick') b b' :=
  ⟨congrArg Except.ok likewise.answer, likewise.books⟩

theorem resolved_works (j : Job) (hostname : String) (resolution : Policy.Resolution)
    (alike : f.Alike b b') :
    f.Works (Stage.renumber f.era) (j.resolved hostname resolution)
      ((j.renumber f.era).resolved hostname resolution) b b' :=
  (attempt_works (Policy.watch_likewise hostname resolution alike)).bind
    fun outcome _ _ alike => closeTick_works j outcome alike

/-- The rest of a tick after some acts; the acts need not be the same in both runs. -/
theorem tick_works {acts acts' : List Policy.Act} (j : Job) (ending : Policy.Ending)
    (likewise : f.Likewise id ((Policy.acts acts).after b) ((Policy.acts acts').after b')) :
    f.Works (Stage.renumber f.era) (j.tick acts ending)
      ((j.renumber f.era).tick acts' ending) b b' := by
  refine (attempt_works likewise).bind fun outcome _ _ alike => ?_
  cases outcome with
  | error text => exact closeTick_works j (.error text) alike
  | ok =>
      cases ending with
      | waiting => exact .pure Stage.ticking alike
      | done => exact closeTick_works j (.ok ()) alike
      | failed text => exact closeTick_works j (.error text) alike
      | panicked text => exact .pure (Stage.ended (some text)) alike

/-- A job of the second run answers a signal as the one of the first does. -/
theorem Responds.works {j : Job} {signal : Signal} {work : Work Stage}
    (responds : j.Responds b signal work)
    (own : ∀ event ∈ signal.offered, f.AlikeEvents event event) (alike : f.Alike b b') :
    ∃ work', (j.renumber f.era).respond b' signal = some work' ∧
      ∀ c c', f.Alike c c' → f.Works (Stage.renumber f.era) work work' c c' := by
  cases responds with
  | run standing =>
      refine ⟨_, ?_, fun _ _ alike => run_works j alike⟩
      simp only [respond, renumber, standing]
      rfl
  | wake standing due =>
      refine ⟨_, ?_, fun _ _ alike => wake_works j _ alike⟩
      simp only [respond, renumber, standing, Stage.renumber, alike.clock, due, if_true]
  | @launch batch standing waiting =>
      refine ⟨_, ?_, fun _ _ alike =>
        (Works.modifyGet _ _ (Keeper.launch_likewise batch alike)).map fun _ => rfl⟩
      simp only [respond, renumber, standing, Stage.renumber]
      exact if_pos waiting
  | @deliver batch call supply standing running =>
      refine ⟨_, ?_, fun _ _ alike =>
        (Works.modifyGet _ _ (Keeper.deliver_likewise batch call supply alike)).map fun _ => rfl⟩
      simp only [respond, renumber, standing, Stage.renumber]
      exact if_pos running
  | @collect batch call supply standing ended =>
      refine ⟨_, ?_, fun _ _ alike => collect_works j batch call supply alike⟩
      simp only [respond, renumber, standing, Stage.renumber]
      exact if_pos ended
  | judge verdict standing =>
      refine ⟨_, ?_, fun _ _ alike => judge_works j _ verdict alike⟩
      simp only [respond, renumber, standing, Stage.renumber]
  | resolved resolution standing watching kind =>
      refine ⟨_, ?_, fun _ _ alike => resolved_works j _ resolution alike⟩
      simp only [respond, renumber, standing, Stage.renumber, policyOf_alike alike, watching, kind,
        if_true]
  | tick acts ending standing custom kind =>
      refine ⟨_, ?_, fun _ _ alike =>
        tick_works j ending (Policy.acts_likewise acts own alike)⟩
      simp only [respond, renumber, standing, Stage.renumber, policyOf_alike alike, custom, kind,
        if_true]

/-- A signal that a job of the first run does not wait for is not waited for in the second. -/
theorem respond_renumber (j : Job) (signal : Signal) (alike : f.Alike b b')
    (silent : j.respond b signal = none) : (j.renumber f.era).respond b' signal = none := by
  have clock := alike.clock
  have policy := policyOf_alike alike
  obtain ⟨kind, enabled, stage⟩ := j
  -- Whether a job waits for a signal never hangs on the number of a generation.
  cases signal <;> cases stage <;>
    simp only [respond, renumber, Stage.renumber, Keeper.Batch.renumber, clock, policy,
      ite_eq_right_iff, reduceCtorEq, imp_false] at silent ⊢ <;>
    exact silent

theorem supervise_alike (kind : JobKind) (failure : Failure) (alike : f.Alike b b') :
    f.Alike (supervise kind failure b) (supervise kind failure b') := by
  have event : failureEvent b' failure.message kind = failureEvent b failure.message kind := by
    cases kind <;> simp only [failureEvent, policyOf_alike alike]
  have quiet : (failureEvent b failure.message kind).isClearing = false := by
    cases kind <;> rfl
  have told := alike.tell (.same quiet)
  have settings := told.settings
  unfold supervise
  rw [event]
  simp only [settings]
  split
  · exact (told.note (.terminating kind failure.message)).terminate
  · exact told

theorem turn_likewise {work work' : Work Stage} (j : Job) (id : JobId)
    (works : f.Works (Stage.renumber f.era) work work' { b with actor := some id }
      { b' with actor := some id }) :
    f.Likewise (renumber f.era) (j.turn id work b) ((j.renumber f.era).turn id work' b') := by
  obtain ⟨failure, c, c', ended, ended', alike⟩ | ⟨stage, c, c', ended, ended', alike⟩ :=
    works.cases <;> rw [Work.after] at ended ended' <;> simp only [turn, ended, ended']
  · exact ⟨rfl, (supervise_alike j.kind failure alike).actAs none⟩
  · exact ⟨rfl, alike.actAs none⟩

end Job
end ResourcePool
