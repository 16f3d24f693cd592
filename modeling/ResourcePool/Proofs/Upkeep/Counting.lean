import ResourcePool.Proofs.Books.Counting
import ResourcePool.Proofs.Upkeep.Job

/-! What a job's turn counts. Each signal moves only the counters of its kind of work, whether
the turn is cut short or not, and factory calls end only by delivery. -/
namespace ResourcePool
open Books (Changes Counts CountsLoss)

variable {counted : List Counter}

namespace Work
variable {α β : Type}

/-- A stretch moves only some counters, and no factory call ends in it. -/
def Counts (counted : List Counter) (w : Work α) : Prop :=
  ∀ b, Books.Counts counted [] b (w.after b).2

namespace Counts

theorem pure (a : α) : Counts counted (Pure.pure a : Work α) := fun b => .refl b

theorem throw (failure : Failure) : Counts counted (MonadExcept.throw failure : Work α) :=
  fun b => .refl b

theorem books : Counts counted Work.books := fun b => .refl b

theorem apply {change : Books → Books} (counts : ∀ b, Books.Counts counted [] b (change b)) :
    Counts counted (Work.apply change) := counts

theorem modifyGet {change : Books → α × Books}
    (counts : ∀ b, Books.Counts counted [] b (change b).2) :
    Counts counted (MonadStateOf.modifyGet change : Work α) := counts

theorem log (event : Event) : Counts counted (Work.log event) := by
  intro b
  rw [after_log]
  exact .tell b event

theorem bind {w : Work α} {next : α → Work β} (first : Counts counted w)
    (rest : ∀ a, Counts counted (next a)) : Counts counted (w >>= next) := fun b =>
  bind_keeps (P := Books.Counts counted [] b) (first b)
    fun a b' counts => counts.trans (rest a b')

theorem map {f : α → β} {w : Work α} (counts : Counts counted w) : Counts counted (f <$> w) := by
  intro b
  have first := counts b
  rw [after_map]
  rcases ended : w.after b with ⟨_ | _, b'⟩ <;> rw [ended] at first <;> exact first

theorem tryCatch {w : Work α} {handler : Failure → Work α} (first : Counts counted w)
    (rescue : ∀ failure, Counts counted (handler failure)) :
    Counts counted (MonadExcept.tryCatch w handler) := by
  intro b
  have tried := first b
  rw [after_tryCatch]
  rcases ended : w.after b with ⟨failure | _, b'⟩ <;> rw [ended] at tried
  · exact tried.trans (rescue failure b')
  · exact tried

end Counts
end Work

open Work.Counts (books log apply modifyGet)

/-! ## The keeper -/

namespace Keeper

theorem survey_counts : Work.Counts [.disposed] survey := by
  refine (log _).bind fun _ => books.bind fun b => ?_
  simp only
  split
  · exact (log _).bind fun _ => .pure _
  · split
    · refine (log _).bind fun _ => (modifyGet fun b => ?_).bind fun _ =>
        (log _).bind fun _ => .pure _
      have disposed : ∀ store, Counts [.disposed] [] b { b with store } := fun _ => .aside rfl rfl
      exact ((disposed _).trans (.count _ _ (by simp))).trans (.letGoAll _ _)
    · exact (log _).bind fun _ => .pure _

theorem logFailure_counts (needed : Nat) (error : String) (made : List Resource)
    (own : .factoryFailures ∈ counted) : Work.Counts counted (logFailure needed error made) :=
  (apply fun b => .count b 1 own).bind fun _ =>
    (log _).tryCatch fun failure => (apply fun b => .letGoAll b made).bind fun _ => .throw failure

theorem note_counts (batch : Batch) (call : Resource) (supply : Supply)
    (own : .factoryFailures ∈ counted) : Work.Counts counted (note batch call supply) := by
  unfold note
  split
  · exact .pure _
  · exact (logFailure_counts _ _ _ own).bind fun _ => .pure _

/-- A batch is counted before it is admitted or dropped. -/
theorem admitted_counts (generation : Nat) (made : List Resource) : Work.Counts counted (do
    let b ← Work.books
    match b.store.admitAvailable made generation with
    | some store =>
        Work.apply fun b => { b with store }
        Work.log (.added made.length)
    | none =>
        Work.apply (·.letGoAll made)
        Work.log (.additionSkipped made.length)) := by
  refine books.bind fun b => ?_
  split
  · rename_i store _
    have admitted : ∀ b, Counts counted [] b { b with store } := fun _ => .aside rfl rfl
    exact (apply admitted).bind fun _ => log _
  · exact (apply fun b => .letGoAll b _).bind fun _ => log _

theorem admitBatch_counts (generation : Nat) (made : List Resource) (own : .created ∈ counted) :
    Work.Counts counted (admitBatch generation made) := by
  unfold admitBatch
  split
  · exact .pure ()
  · exact (apply fun b => .count b _ own).bind fun _ => admitted_counts generation made

theorem collect_counts (batch : Batch) (call : Resource) (supply : Supply) :
    Work.Counts [.created, .factoryFailures] (collect batch call supply) := by
  refine (note_counts _ _ _ (by simp)).bind fun noted => ?_
  split
  · exact (admitBatch_counts _ _ (by simp)).bind fun _ => .pure _
  · exact .pure _

end Keeper

/-! ## The health job -/

namespace Health

theorem seek_counts (checked locked : Nat) (slots : List SlotId) :
    Work.Counts counted (seek checked locked slots) := by
  induction slots generalizing locked with
  | nil =>
      exact (log _).bind fun _ => (log _).bind fun _ => (log _).bind fun _ => .pure _
  | cons slot rest ih =>
      refine books.bind fun b => ?_
      split
      · exact (log _).bind fun _ => ih locked
      · exact (log _).bind fun _ => (log _).bind fun _ =>
          (apply fun b => .take b _).bind fun _ => .pure _

theorem survey_counts : Work.Counts counted survey :=
  (log _).bind fun _ => books.bind fun _ => (log _).bind fun _ => seek_counts _ _ _

theorem refused_counts (refusal : Option Refusal) : Work.Counts counted (match refusal with
    | some refusal => throw (.logging refusal)
    | none => pure () : Work Unit) := by
  cases refusal with
  | none => exact .pure ()
  | some refusal => exact .throw _

theorem evict_counts (slot : SlotId) (own : .evicted ∈ counted) :
    Work.Counts counted (evict slot) := by
  refine (modifyGet fun b => .tell b _).bind fun refusal =>
    (modifyGet fun b => .remove b slot).bind fun was => ?_
  cases was with
  | false => exact refused_counts refusal
  | true => exact (apply fun b => .count b 1 own).bind fun _ => refused_counts refusal

theorem conclude_counts (slot : SlotId) (verdict : Verdict)
    (own : verdict.condemns = true → .evicted ∈ counted) :
    Work.Counts counted (conclude slot verdict) := by
  cases verdict with
  | sound => exact log _
  | broken => exact evict_counts slot (own rfl)
  | failed text => exact (log _).bind fun _ => evict_counts slot (own rfl)
  | panicked text => exact .pure ()

theorem judge_counts (round : Round) (verdict : Verdict)
    (own : verdict.condemns = true → .evicted ∈ counted) :
    Work.Counts counted (judge round verdict) :=
  (apply fun b => .letGo b _).bind fun _ =>
    (conclude_counts round.slot verdict own).bind fun _ => seek_counts _ _ _

/-- An eviction counts if the slot was there, whatever the sink says. -/
theorem evict_countsLoss (slot : SlotId) (b : Books) :
    CountsLoss slot b ((evict slot).after b).2 := by
  have told : (b.tell (.evicting slot)).store = b.store := rfl
  have counts : Counts [] [] b (b.tell (.evicting slot)) := .tell b _
  refine .of_eq ?_ told counts (by simp)
  have removed := CountsLoss.remove (b.tell (.evicting slot)) slot
  have ended (left : Books) (counted : CountsLoss slot (b.tell (.evicting slot)) left) :
      CountsLoss slot (b.tell (.evicting slot)) ((match (b.offer (.evicting slot)).1 with
        | some refusal => throw (.logging refusal)
        | none => pure () : Work Unit).after left).2 := by
    cases (b.offer (.evicting slot)).1 <;> exact counted
  unfold evict
  rw [Work.after_bind, Work.after_modifyGet]
  simp only
  rw [Work.after_bind, Work.after_modifyGet]
  rcases taken : (b.tell (.evicting slot)).remove slot with ⟨_ | _, left⟩ <;>
    rw [taken] at removed <;> simp only [Books.tell] at taken <;> simp only [taken] <;>
    exact ended _ removed

theorem conclude_countsLoss (slot : SlotId) {verdict : Verdict}
    (condemned : verdict.condemns = true) (b : Books) :
    CountsLoss slot b ((conclude slot verdict).after b).2 := by
  cases verdict with
  | broken => exact evict_countsLoss slot b
  | failed text =>
      unfold conclude
      rw [Work.after_bind, Work.after_log]
      cases b.sink b.journal (.checkFailed slot text) with
      | none => exact .of_eq (evict_countsLoss slot _) rfl (Counts.tell b _) List.not_mem_nil
      | some refusal => exact .of_kept rfl (Counts.tell b _) List.not_mem_nil
  | sound | panicked => contradiction

theorem judge_countsLoss (round : Round) {verdict : Verdict}
    (condemned : verdict.condemns = true) (b : Books) :
    CountsLoss round.slot b ((judge round verdict).after b).2 := by
  have concluded := conclude_countsLoss round.slot condemned (b.letGo round.resource)
  have kept : (b.letGo round.resource).store = b.store := rfl
  refine .of_eq ?_ kept (Counts.letGo b round.resource) List.not_mem_nil
  unfold judge
  rw [Work.after_bind, Work.after_apply]
  refine Work.bind_keeps (P := CountsLoss round.slot (b.letGo round.resource)) concluded ?_
  intro _ left counted
  have sought : Work.Goes (fun _ => False) (seek round.checked round.locked round.rest) left _ :=
    seek_goes round.checked round.locked round.rest left
  exact counted.trans sought.changes.store_eq (seek_counts _ _ _ left) List.not_mem_nil

end Health

/-! ## Policies -/

namespace Tick
variable {α β : Type}

/-- A stretch of a tick moves only some counters, and no factory call ends in it. -/
def Counts (counted : List Counter) (tick : Tick α) : Prop :=
  ∀ b, Books.Counts counted [] b (tick.after b).2

theorem Counts.bind {tick : Tick α} {next : α → Tick β} (first : Counts counted tick)
    (rest : ∀ a, Counts counted (next a)) : Counts counted (tick >>= next) := by
  intro b
  have begun := first b
  rw [after_bind]
  rcases ended : tick.after b with ⟨_ | a, b'⟩ <;> rw [ended] at begun
  · exact begun
  · exact begun.trans (rest a b')

theorem Counts.log (event : Event) : Counts counted (Tick.log event) := by
  unfold Tick.log
  refine Counts.bind (fun b => .tell b event) fun refusal => ?_
  cases refusal <;> exact fun b => .refl b

end Tick

namespace Policy

theorem act_counts (act : Act) : Tick.Counts [.clears] (Policy.act act) := by
  cases act with
  | clear => exact fun b => .clear b (by simp)
  | log event => exact .log event
  | tell event => exact fun b => .tell b event
  | readPopulation | readId => exact fun b => .note b rfl

theorem acts_counts (acts : List Act) : Tick.Counts [.clears] (Policy.acts acts) := by
  induction acts with
  | nil => exact fun b => .refl b
  | cons act rest ih => exact (act_counts act).bind fun _ => ih

theorem watch_counts (hostname : String) (resolution : Resolution) :
    Tick.Counts [.clears] (watch hostname resolution) := by
  cases resolution with
  | error text => exact .log _
  | ok found =>
      have kept : ∀ addresses, Tick.Counts [.clears]
          (Tick.apply fun b => { b with baseline := addresses }) := fun _ _ => .aside rfl rfl
      have cleared : Tick.Counts [.clears] (Tick.apply Books.clear) := fun b => .clear b (by simp)
      refine Tick.Counts.bind (fun b => .refl b) fun seen => ?_
      simp only
      split
      · exact (Tick.Counts.log _).bind fun _ => cleared.bind fun _ => kept _
      · exact fun b => .refl b

theorem start_counts (policy : Policy) (b : Books) : Counts counted [] b (policy.start b) := by
  have noted : Counts counted [] b (b.note .policyStarted) := .note b rfl
  cases policy with
  | addresses hostname => exact noted.trans (.aside rfl rfl)
  | custom label => exact noted

theorem beginTick_counts (policy : Policy) (b : Books) :
    Counts counted [] b (policy.beginTick b) := by
  cases policy with
  | addresses hostname =>
      have built : Counts counted [] b { b with resolvers := b.resolvers + 1 } := .aside rfl rfl
      exact built.trans (.note _ rfl)
  | custom label => exact .refl b

end Policy

/-! ## Turns -/

namespace Signal

/-- Counters that a turn in answer to a signal may move. -/
def counters : Signal → List Counter
  | .run | .wake => [.disposed]
  | .launch | .deliver .. => []
  | .collect .. => [.created, .factoryFailures]
  | .judge verdict => if verdict.condemns then [.evicted] else []
  | .resolved _ | .tick .. => [.clears]

/-- Factory calls that end with a signal. -/
def ended : Signal → List (Resource × Supply)
  | .deliver call supply => [(call, supply)]
  | _ => []

end Signal

namespace Job

theorem finish_counts (kind : JobKind) : Work.Counts counted (finish kind) := by
  cases kind with
  | keeper | health => exact (log _).bind fun _ => .pure _
  | management =>
      exact (apply fun b => .note b rfl).bind fun _ => books.bind fun _ =>
        (log _).bind fun _ => .pure _

theorem pause_counts (kind : JobKind) (enabled : Bool) :
    Work.Counts counted (pause kind enabled) := by
  refine books.bind fun b => ?_
  cases nap? b kind with
  | none => exact .pure _
  | some nap =>
      cases enabled with
      | true => exact .pure _
      | false => exact finish_counts kind

theorem cycle_counts (kind : JobKind) (enabled : Bool) :
    Work.Counts [.disposed] (cycle kind enabled) := by
  cases kind with
  | keeper =>
      refine Keeper.survey_counts.bind ?_
      rintro (_ | batch)
      · exact pause_counts .keeper enabled
      · exact .pure _
  | health =>
      refine Health.survey_counts.bind ?_
      rintro (_ | round)
      · exact pause_counts .health enabled
      · exact .pure _
  | management =>
      exact books.bind fun b => (log _).bind fun _ =>
        (apply (Policy.beginTick_counts (policyOf b))).bind fun _ => .pure _

theorem run_counts (j : Job) : Work.Counts [.disposed] j.run := by
  have looped : Work.Counts [.disposed] (loop j.kind j.enabled) := by
    unfold loop
    split
    · exact cycle_counts j.kind j.enabled
    · exact finish_counts j.kind
  unfold run
  split
  · exact (apply fun b => Policy.start_counts (policyOf b) b).bind fun _ => looped
  · exact looped

theorem wake_counts (j : Job) (nap : Nap) : Work.Counts [.disposed] (j.wake nap) := by
  unfold wake
  split
  · refine books.bind fun b => ?_
    cases nap.wake? b.settings.alarm b.clock with
    | some wake => exact .pure _
    | none => exact cycle_counts j.kind j.enabled
  · exact finish_counts j.kind

theorem collect_counts (j : Job) (batch : Keeper.Batch) (call : Resource) (supply : Supply) :
    Work.Counts [.created, .factoryFailures] (j.collect batch call supply) := by
  refine (Keeper.collect_counts batch call supply).bind ?_
  rintro (_ | batch)
  · exact pause_counts j.kind j.enabled
  · exact .pure _

theorem judge_counts (j : Job) (round : Health.Round) (verdict : Verdict)
    (own : verdict.condemns = true → .evicted ∈ counted) :
    Work.Counts counted (j.judge round verdict) := by
  cases verdict with
  | panicked text => exact (apply fun b => .letGo b _).bind fun _ => .pure _
  | sound | broken | failed =>
      refine (Health.judge_counts round _ own).bind ?_
      rintro (_ | round)
      · exact pause_counts j.kind j.enabled
      · exact .pure _

theorem judge_countsLoss (j : Job) (round : Health.Round) {verdict : Verdict}
    (condemned : verdict.condemns = true) (b : Books) :
    CountsLoss round.slot b ((j.judge round verdict).after b).2 := by
  have judged := Health.judge_countsLoss round condemned b
  have going : ∀ answer left, CountsLoss round.slot b left →
      CountsLoss round.slot b ((match answer with
        | some round => pure (.checking round)
        | none => pause j.kind j.enabled : Work Stage).after left).2 := by
    rintro (_ | next) left counted
    · have paused : Work.Goes (fun _ => False) (pause j.kind j.enabled) left _ :=
        pause_goes j left left j.kind j.enabled
      exact counted.trans paused.changes.store_eq (pause_counts _ _ left) List.not_mem_nil
    · exact counted
  cases verdict with
  | broken | failed => exact Work.bind_keeps (P := CountsLoss round.slot b) judged going
  | sound | panicked => contradiction

theorem closeTick_counts (j : Job) (outcome : Except String Unit) :
    Work.Counts counted (j.closeTick outcome) := by
  have closed : ∀ label, Work.Counts counted (do
      Work.log (.policyCycleEnd label)
      pause j.kind j.enabled) := fun _ => (log _).bind fun _ => pause_counts j.kind j.enabled
  refine books.bind fun b => ?_
  cases outcome with
  | ok => exact closed _
  | error text =>
      have failed : ∀ label, Work.Counts counted (do
          Work.log (.policyFailed label text)
          Work.log (.policyCycleEnd label)
          pause j.kind j.enabled) := fun _ => (log _).bind fun _ => closed _
      simp only
      split
      · exact (apply fun b => .note b rfl).bind fun _ =>
          (Work.Counts.throw _).bind fun _ => failed _
      · exact failed _

theorem resolved_counts (j : Job) (hostname : String) (resolution : Policy.Resolution) :
    Work.Counts [.clears] (j.resolved hostname resolution) := by
  have watched : Work.Counts [.clears] (attempt (Policy.watch hostname resolution)) :=
    Policy.watch_counts hostname resolution
  exact watched.bind fun outcome => closeTick_counts j outcome

theorem tick_counts (j : Job) (acts : List Policy.Act) (ending : Policy.Ending) :
    Work.Counts [.clears] (j.tick acts ending) := by
  have acted : Work.Counts [.clears] (attempt (Policy.acts acts)) := Policy.acts_counts acts
  refine acted.bind ?_
  rintro (text | _)
  · exact closeTick_counts j _
  · cases ending with
    | waiting | panicked => exact .pure _
    | done | failed => exact closeTick_counts j _

/-- A job counts only what belongs to the work it was signalled for. -/
theorem Responds.counts {j : Job} {b : Books} {signal : Signal} {work : Work Stage}
    (responds : j.Responds b signal work) (b' : Books) :
    Counts signal.counters signal.ended b' (work.after b').2 := by
  cases responds with
  | run => exact run_counts j b'
  | wake => exact wake_counts j _ b'
  | @launch batch =>
      have launched : ∀ b, Counts [] [] b (batch.launch b).2 := fun b => .callFactory b
      exact (modifyGet launched).map b'
  | @deliver batch call supply => exact .endCall b' call supply
  | collect => exact collect_counts j _ _ _ b'
  | @judge round verdict =>
      exact judge_counts j round verdict (by simp +contextual [Signal.counters]) b'
  | resolved resolution => exact resolved_counts j _ resolution b'
  | tick acts ending => exact tick_counts j acts ending b'

theorem supervise_counts (kind : JobKind) (failure : Failure) (b : Books) :
    Counts counted [] b (supervise kind failure b) := by
  have noted (report : Books) : Counts counted [] report
      (report.note (.terminating kind failure.message)) := .note report rfl
  unfold supervise
  simp only
  split
  · exact ((Counts.tell b _).trans (noted _)).trans (.aside rfl rfl)
  · exact .tell b _

/-- What a turn counts apart from its work. -/
theorem after_counts (j : Job) (id : JobId) (work : Work Stage) (b : Books) :
    Counts counted [] (work.after { b with actor := some id }).2 (j.turn id work b).2 := by
  unfold turn
  rcases ended : work.after { b with actor := some id } with ⟨failure | stage, left⟩ <;>
    simp only [Work.after] at ended <;> simp only [ended]
  · exact (supervise_counts _ _ _).trans (.aside rfl rfl)
  · exact .aside rfl rfl

theorem turn_counts {j : Job} {b : Books} {signal : Signal} {work : Work Stage}
    (answered : j.respond b signal = some work) (id : JobId) :
    Counts signal.counters signal.ended b (j.turn id work b).2 := by
  have worked : Counts signal.counters signal.ended b
      (work.after { b with actor := some id }).2 := by
    obtain ⟨others, endings⟩ := (responds answered).counts { b with actor := some id }
    exact ⟨others, endings⟩
  exact worked.trans (j.after_counts id work b)

/-- A turn that draws the consequence of a failed check counts an eviction if its slot was
there and is gone. -/
theorem turn_countsLoss (j : Job) (id : JobId) (round : Health.Round) {verdict : Verdict}
    (condemned : verdict.condemns = true) (b : Books) :
    CountsLoss round.slot b (j.turn id (j.judge round verdict) b).2 := by
  have judged : CountsLoss round.slot b
      ((j.judge round verdict).after { b with actor := some id }).2 :=
    j.judge_countsLoss round condemned { b with actor := some id }
  have turned : Changes (fun _ => False) _ (j.turn id (j.judge round verdict) b).2 :=
    j.turn_changes id _ b
  exact judged.trans turned.store_eq (j.after_counts id _ b) List.not_mem_nil

end Job
end ResourcePool
