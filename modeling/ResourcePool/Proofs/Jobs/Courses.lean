import ResourcePool.Proofs.Jobs.Supervision
import ResourcePool.Proofs.Upkeep.Cycles
import ResourcePool.Proofs.Upkeep.Postings

/-! The course of a job: whole cycles one after another, a part of the next one where the job
waits in its middle, and one last event once the loop is left in good order. Every turn carries
it on. -/
namespace ResourcePool
open Work (Traces)

variable {own : List Event} {policy : Policy} {told : List Event}

/-! ## Ticks -/

namespace Policy

/-- Acts report clearings, and the events that they offer. -/
def Acted (own told : List Event) : Prop :=
  ∀ event ∈ told, (∃ generation dropped, event = .cleared generation dropped) ∨ event ∈ own

/-- What a tick reports that ends well or with a failure. -/
inductive Tick (own : List Event) : Policy → (failed : Bool) → List Event → Prop
  | acted {label : String} {failed : Bool} {told : List Event} : Acted own told →
      Tick own (.custom label) failed told
  | unchanged (hostname : String) : Tick own (.addresses hostname) false []
  | unresolved (hostname error : String) :
      Tick own (.addresses hostname) false [.resolutionFailed hostname error]
  | changed (hostname : String) (previous current generation dropped : Nat) :
      Tick own (.addresses hostname) false
        [.addressesChanged hostname previous current, .cleared generation dropped]

inductive Cycle (own : List Event) (policy : Policy) : List Event → Prop
  | done {told : List Event} : Tick own policy false told →
      Cycle own policy (.policyCycleStart policy.label :: told ++ [.policyCycleEnd policy.label])
  | failed {told : List Event} (error : String) : Tick own policy true told →
      Cycle own policy (.policyCycleStart policy.label :: told ++
        [.policyFailed policy.label error, .policyCycleEnd policy.label])

/-- A tick that is not over has reported what its acts have, or waits for its resolver. -/
inductive Underway (own : List Event) : Policy → List Event → Prop
  | acting {label : String} {told : List Event} : Acted own told →
      Underway own (.custom label) (.policyCycleStart label :: told)
  | resolving (hostname : String) :
      Underway own (.addresses hostname) [.policyCycleStart hostname]

end Policy

/-! ## Courses -/

/-- What a cycle of a job reports. -/
def JobKind.Cycle (own : List Event) (policy : Policy) : JobKind → List Event → Prop
  | .keeper => Keeper.Cycle
  | .health => Health.Cycle
  | .management => Policy.Cycle own policy

/-- The last event of a job that leaves its loop. -/
def JobKind.stopped (policy : Policy) : JobKind → Event
  | .keeper => .keeperStopped
  | .health => .healthStopped
  | .management => .policyStopped policy.label

/-- What a cycle has reported that waits at a stage. -/
def Stage.Underway (own : List Event) (policy : Policy) : Stage → List Event → Prop
  | .creating batch => Keeper.Underway batch
  | .checking round => Health.Underway round
  | .ticking => Policy.Underway own policy
  | _ => fun _ => False

/-- Some number of whole cycles. -/
inductive Cycles (own : List Event) (policy : Policy) (kind : JobKind) : Nat → List Event → Prop
  | none : Cycles own policy kind 0 []
  | next {n : Nat} {told events : List Event} : Cycles own policy kind n told →
      kind.Cycle own policy events → Cycles own policy kind (n + 1) (told ++ events)

/-- What a job has reported that began some number of cycles and stands at a stage. -/
inductive Course (own : List Event) (policy : Policy) (kind : JobKind) :
    Nat → Stage → List Event → Prop
  | unborn : Course own policy kind 0 .spawned []
  | resting {n : Nat} {told : List Event} {nap : Nap} {wake : Nat} : Cycles own policy kind n told →
      Course own policy kind n (.sleeping nap wake) told
  | within {n : Nat} {told events : List Event} {stage : Stage} : Cycles own policy kind n told →
      stage.Underway own policy events → Course own policy kind (n + 1) stage (told ++ events)
  | stopped {n : Nat} {told : List Event} : Cycles own policy kind n told →
      Course own policy kind n (.ended .none) (told ++ [kind.stopped policy])
  /-- The panic of a check or a tick ended the job in the middle of a cycle. -/
  | unwound {n : Nat} {told events : List Event} {text : String} (before : Stage) :
      kind ≠ .keeper → Cycles own policy kind n told → before.Underway own policy events →
      Course own policy kind (n + 1) (.ended (some text)) (told ++ events)
  /-- The clock could not tell the end of the pause after a cycle. -/
  | overflowed {n : Nat} {told : List Event} : Cycles own policy kind n told →
      Course own policy kind n (.ended (some Nap.overflow)) told

section
variable {more : List Event} (within : own ⊆ more)
include within

theorem Policy.Acted.mono (acted : Policy.Acted own told) : Policy.Acted more told :=
  fun event member => (acted event member).imp_right fun offered => within offered

theorem Policy.Tick.mono {failed : Bool} (tick : Policy.Tick own policy failed told) :
    Policy.Tick more policy failed told := by
  cases tick with
  | acted acted => exact .acted (acted.mono within)
  | unchanged => exact .unchanged _
  | unresolved => exact .unresolved _ _
  | changed => exact .changed ..

theorem JobKind.Cycle.mono {kind : JobKind} (cycle : kind.Cycle own policy told) :
    kind.Cycle more policy told := by
  cases kind with
  | keeper | health => exact cycle
  | management =>
      cases cycle with
      | done tick => exact .done (tick.mono within)
      | failed error tick => exact .failed error (tick.mono within)

theorem Stage.Underway.mono {stage : Stage} (underway : stage.Underway own policy told) :
    stage.Underway more policy told := by
  cases stage with
  | ticking =>
      cases underway with
      | acting acted => exact .acting (acted.mono within)
      | resolving => exact .resolving _
  | _ => exact underway

theorem Cycles.mono {kind : JobKind} {n : Nat} (cycles : Cycles own policy kind n told) :
    Cycles more policy kind n told := by
  induction cycles with
  | none => exact .none
  | next _ cycle ih => exact .next ih (cycle.mono within)

theorem Course.mono {kind : JobKind} {n : Nat} {stage : Stage}
    (course : Course own policy kind n stage told) : Course more policy kind n stage told := by
  cases course with
  | unborn => exact .unborn
  | resting cycles => exact .resting (cycles.mono within)
  | within cycles underway => exact .within (cycles.mono within) (underway.mono within)
  | stopped cycles => exact .stopped (cycles.mono within)
  | unwound before other cycles underway =>
      exact .unwound before other (cycles.mono within) (underway.mono within)
  | overflowed cycles => exact .overflowed (cycles.mono within)

end

namespace Job
variable {kind : JobKind} {enabled : Bool} {n : Nat} {b : Books} {events : List Event}

/-- Where the work of a job leaves its course: out of the loop only if the job was asked to
stop. -/
def Carries (own : List Event) (policy : Policy) (kind : JobKind) (enabled : Bool) (n : Nat)
    (stage : Stage) (told : List Event) : Prop :=
  Course own policy kind n stage told ∧ (stage = .ended none → enabled = false)

/-- Work that keeps steady keeps the policy. -/
theorem policyOf_steady {left : Books} (steady : Books.Steady b left) (same : policyOf b = policy) :
    policyOf left = policy :=
  (policyOf_congr steady.settings).trans same

theorem finish_traces (cycles : Cycles own policy kind n told) (same : policyOf b = policy)
    (asked : enabled = false) :
    Traces (finish kind) b fun stage late =>
      Carries own policy kind enabled n stage (told ++ late) := by
  cases kind with
  | keeper | health =>
      refine Traces.bind (.log _) fun _ _ _ last _ => .pure ?_
      subst last
      exact ⟨.stopped cycles, fun _ => asked⟩
  | management =>
      refine Traces.bind (.apply (.note b .policyStopped) ?_) fun _ _ b' quiet steady =>
        .books ?_
      · exact List.forall_mem_singleton.mpr rfl
      · subst quiet
        rw [policyOf_steady steady same]
        refine Traces.bind (.log _) fun _ _ _ last _ => .pure ?_
        subst last
        exact ⟨.stopped cycles, fun _ => asked⟩

theorem pause_traces (cycles : Cycles own policy kind n told) (same : policyOf b = policy) :
    Traces (pause kind enabled) b fun stage late =>
      Carries own policy kind enabled n stage (told ++ late) := by
  refine .books ?_
  cases nap? b kind with
  | none =>
      refine .pure ⟨?_, nofun⟩
      rw [List.append_nil]
      exact .overflowed cycles
  | some nap =>
      cases enabled with
      | true =>
          refine .pure ⟨?_, nofun⟩
          rw [List.append_nil]
          exact .resting cycles
      | false => exact finish_traces cycles same rfl

/-- After a whole cycle the job pauses. -/
theorem closed_traces {late : List Event} (early : List Event)
    (cycles : Cycles own policy kind n told)
    (cycle : kind.Cycle own policy (early ++ late)) (same : policyOf b = policy) :
    Traces (pause kind enabled) b fun stage rest =>
      Carries own policy kind enabled (n + 1) stage (told ++ early ++ (late ++ rest)) := by
  refine (pause_traces (.next cycles cycle) same).weaken fun stage rest carries => ?_
  simpa only [List.append_assoc] using carries

/-- Where work waits in the middle of a cycle. -/
theorem waits {stage : Stage} {early : List Event} (late : List Event)
    (cycles : Cycles own policy kind n told)
    (underway : stage.Underway own policy (early ++ late)) (going : stage ≠ .ended none) :
    Carries own policy kind enabled (n + 1) stage (told ++ early ++ (late ++ [])) := by
  refine ⟨?_, fun ended => absurd ended going⟩
  rw [List.append_nil, List.append_assoc]
  exact .within cycles underway

theorem beginTick_traces (policy : Policy) (b : Books) :
    Traces (Work.apply policy.beginTick) b fun _ told => told = [] := by
  cases policy with
  | addresses hostname =>
      have built : Books.Adds [] b { b with resolvers := b.resolvers + 1 } :=
        .aside rfl rfl rfl rfl rfl rfl
      exact .apply (built.trans (.note _ _)) (List.forall_mem_singleton.mpr rfl)
  | custom label => exact .apply (.refl b) (by simp)

theorem cycle_traces (cycles : Cycles own policy kind n told) (same : policyOf b = policy) :
    Traces (cycle kind enabled) b fun stage late =>
      Carries own policy kind enabled (n + 1) stage (told ++ late) := by
  have begun {stage : Stage} {late : List Event}
      (carries : Carries own policy kind enabled (n + 1) stage (told ++ [] ++ late)) :
      Carries own policy kind enabled (n + 1) stage (told ++ late) := by
    rwa [List.append_nil] at carries
  cases kind with
  | keeper =>
      refine (Keeper.survey_traces b).bind fun answer events b' stands steady => ?_
      cases answer with
      | none =>
          exact (closed_traces [] cycles stands (policyOf_steady steady same)).weaken
            fun _ _ => begun
      | some batch => exact .pure (begun (waits _ cycles stands nofun))
  | health =>
      refine (Health.survey_traces b).bind fun answer events b' stands steady => ?_
      cases answer with
      | none =>
          exact (closed_traces [] cycles stands (policyOf_steady steady same)).weaken
            fun _ _ => begun
      | some round => exact .pure (begun (waits _ cycles stands nofun))
  | management =>
      refine .books ?_
      rw [same]
      refine Traces.bind (.log _) fun _ _ b' opened _ =>
        (beginTick_traces policy b').bind fun _ _ _ quiet _ => .pure ?_
      subst opened quiet
      refine begun (waits _ cycles ?_ nofun)
      cases policy with
      | addresses hostname => exact .resolving hostname
      | custom label => exact .acting nofun

variable {j : Job}

theorem start_traces (b : Books) :
    Traces (Work.apply fun b => (policyOf b).start b) b fun _ told => told = [] :=
  .apply (start_adds (policyOf b) b) (List.forall_mem_singleton.mpr rfl)

theorem loop_traces (same : policyOf b = policy) :
    Traces (loop kind enabled) b fun stage late =>
      Carries own policy kind enabled (if enabled then 1 else 0) stage late := by
  cases enabled with
  | true => exact cycle_traces .none same
  | false => exact finish_traces .none same rfl

theorem run_traces (same : policyOf b = policy) :
    Traces j.run b fun stage late =>
      Carries own policy j.kind j.enabled (if j.enabled then 1 else 0) stage late := by
  unfold run
  split
  · refine (start_traces b).bind fun _ _ b' quiet steady => ?_
    subst quiet
    exact loop_traces (policyOf_steady steady same)
  · exact loop_traces same

theorem wake_traces (cycles : Cycles own policy j.kind n told) (same : policyOf b = policy)
    (nap : Nap) :
    Traces (j.wake nap) b fun stage late => Carries own policy j.kind j.enabled
      (n + if j.enabled && (nap.wake? b.settings.alarm b.clock).isNone then 1 else 0) stage
        (told ++ late) := by
  unfold wake
  cases asked : j.enabled with
  | true =>
      refine .books ?_
      cases due : nap.wake? b.settings.alarm b.clock with
      | none => exact cycle_traces cycles same
      | some wake =>
          refine .pure ⟨?_, nofun⟩
          rw [List.append_nil]
          exact .resting cycles
  | false => exact finish_traces cycles same rfl

theorem collect_traces {batch : Keeper.Batch} {call : Resource} {supply : Supply}
    {early : List Event} (keeper : j.kind = .keeper) (ended : (call, supply) ∈ batch.ended)
    (cycles : Cycles own policy j.kind n told) (underway : Keeper.Underway batch early)
    (same : policyOf b = policy) :
    Traces (j.collect batch call supply) b fun stage late =>
      Carries own policy j.kind j.enabled (n + 1) stage (told ++ early ++ late) := by
  refine (Keeper.collect_traces ended underway b).bind fun answer events b' stands steady => ?_
  cases answer with
  | none =>
      exact closed_traces _ cycles (keeper ▸ stands) (policyOf_steady steady same)
  | some batch => exact .pure (waits _ cycles stands nofun)

theorem judge_traces {round : Health.Round} {early : List Event} (health : j.kind = .health)
    (cycles : Cycles own policy j.kind n told) (underway : Health.Underway round early)
    (same : policyOf b = policy) (verdict : Verdict) :
    Traces (j.judge round verdict) b fun stage late =>
      Carries own policy j.kind j.enabled (n + 1) stage (told ++ early ++ late) := by
  cases verdict with
  | panicked text =>
      refine Traces.bind (.apply (.aside rfl rfl rfl rfl rfl rfl :
        Books.Adds [] b (b.letGo round.resource)) (by simp)) fun _ _ _ quiet _ => .pure ?_
      subst quiet
      refine ⟨?_, by simp⟩
      rw [List.append_nil, List.append_nil]
      exact .unwound (.checking round) (by simp [health]) cycles underway
  | sound | broken | failed =>
      refine (Health.judge_traces underway ?_ b).bind fun answer events b' stands steady => ?_
      · simp
      · cases answer with
        | none =>
            exact closed_traces _ cycles (health ▸ stands) (policyOf_steady steady same)
        | some round => exact .pure (waits _ cycles stands (by simp))

/-- A batch goes on without an event when a call begins or ends. -/
theorem batch_traces {change : Books → Keeper.Batch × Books} {late : List Report}
    {post : Stage → List Event → Prop} (adds : Books.Adds late b (change b).2)
    (quiet : ∀ report ∈ late, report.event? = none) (holds : post (.creating (change b).1) []) :
    Traces (Stage.creating <$> modifyGet change) b post := by
  refine ⟨late, adds, ?_⟩
  show post (.creating (change b).1) (eventsOf late)
  rw [eventsOf_quiet quiet]
  exact holds

theorem callFactory_adds (b : Books) :
    Books.Adds [.factoryCalled b.calls] b b.callFactory.2 := by
  have begun : Books.Adds [] b { b with calls := b.calls + 1 } := .aside rfl rfl rfl rfl rfl rfl
  exact begun.trans (.note _ _)

theorem endCall_adds (b : Books) (call : Resource) (supply : Supply) :
    Books.Adds [.factoryEnded call supply] b (b.endCall call supply) := by
  have noted := Books.Adds.note b (.factoryEnded call supply)
  cases supply with
  | made =>
      have taken : Books.Adds [] (b.note (.factoryEnded call .made))
          ((b.note (.factoryEnded call .made)).take call) := .aside rfl rfl rfl rfl rfl rfl
      exact noted.trans taken
  | failed | panicked => exact noted

/-! ## Ticks -/

/-- A tick closes its cycle, and if it failed its failure is reported before. -/
theorem closeTick_traces {ticks : List Event} (management : j.kind = .management)
    (tolerant : b.settings.policyFatal = false) (cycles : Cycles own policy j.kind n told)
    (same : policyOf b = policy) (outcome : Except String Unit)
    (tick : Policy.Tick own policy (!outcome.toBool) ticks) :
    Traces (j.closeTick outcome) b fun stage late => Carries own policy j.kind j.enabled (n + 1)
      stage (told ++ (.policyCycleStart policy.label :: ticks) ++ late) := by
  have closed {b' : Books} (early : List Event) (settings : b'.settings = b.settings)
      (cycle : Policy.Cycle own policy
        (.policyCycleStart policy.label :: ticks ++ (early ++ [.policyCycleEnd policy.label]))) :
      Traces (do
        Work.log (.policyCycleEnd policy.label)
        pause j.kind j.enabled) b' fun stage late => Carries own policy j.kind j.enabled (n + 1)
          stage (told ++ (.policyCycleStart policy.label :: ticks) ++ (early ++ late)) := by
    refine Traces.bind (.log _) fun _ _ b'' last steady => ?_
    subst last
    have still := (policyOf_congr (steady.settings.trans settings)).trans same
    have whole : j.kind.Cycle own policy
        (.policyCycleStart policy.label :: ticks ++ (early ++ [.policyCycleEnd policy.label])) := by
      rw [management]
      exact cycle
    refine (closed_traces _ cycles whole still).weaken fun _ _ carries => ?_
    simpa only [List.append_assoc] using carries
  refine .books ?_
  rw [same]
  cases outcome with
  | ok => exact closed [] rfl (.done tick)
  | error text =>
      simp only [tolerant]
      refine Traces.bind (.log (.policyFailed policy.label text)) fun _ _ b' told steady => ?_
      subst told
      exact closed _ steady.settings (.failed text tick)

/-- A stretch of a tick answers how the tick ended. -/
theorem attempt_traces {tick : Tick Unit} {late : List Report}
    (post : Except String Unit → List Event → Prop) (adds : Books.Adds late b (tick.after b).2)
    (holds : post (tick.after b).1 (eventsOf late)) : Traces (attempt tick) b post :=
  ⟨late, adds, holds⟩

theorem clear_adds (b : Books) : ∃ generation dropped refused,
    Books.Adds [.event (.cleared generation dropped) refused] b b.clear := by
  have emptied : Books.Adds [] b ({ b with store := b.store.clear.2 }.count .clears 1) :=
    .aside rfl rfl rfl rfl rfl rfl
  exact ⟨_, _, _, (emptied.trans (.tell _ _)).trans (.letGoAll _ _)⟩

theorem act_adds (act : Policy.Act) (b : Books) : ∃ late,
    Books.Adds late b ((Policy.act act).after b).2 ∧
      Policy.Acted act.event?.toList (eventsOf late) := by
  have offered (event : Event) (refused : Bool) :
      Policy.Acted (some event).toList (eventsOf [.event event refused]) :=
    fun _ member => Or.inr member
  cases act with
  | clear =>
      obtain ⟨generation, dropped, refused, adds⟩ := clear_adds b
      exact ⟨_, adds, List.forall_mem_singleton.mpr (Or.inl ⟨generation, dropped, rfl⟩)⟩
  | log event =>
      refine ⟨_, ?_, offered event (b.sink b.journal event).isSome⟩
      have logged : ((Policy.act (.log event)).after b).2 = b.tell event := by
        rw [Policy.act, Tick.after_log_eq]
      rw [logged]
      exact .tell b event
  | tell event => exact ⟨_, .tell b event, offered event _⟩
  | readPopulation | readId => exact ⟨_, .note b _, nofun⟩

theorem acts_adds (acts : List Policy.Act) (b : Books) : ∃ late,
    Books.Adds late b ((Policy.acts acts).after b).2 ∧
      Policy.Acted (acts.filterMap Policy.Act.event?) (eventsOf late) := by
  induction acts generalizing b with
  | nil => exact ⟨[], .refl b, nofun⟩
  | cons act rest ih =>
      obtain ⟨early, adds, acted⟩ := act_adds act b
      have all : (act :: rest).filterMap Policy.Act.event? =
          act.event?.toList ++ rest.filterMap Policy.Act.event? := by
        cases event : act.event? <;> simp [event]
      have first := acted.mono (List.subset_append_left _ (rest.filterMap Policy.Act.event?))
      unfold Policy.acts
      rw [Tick.after_bind, all]
      rcases ended : (Policy.act act).after b with ⟨text | _, b'⟩ <;> rw [ended] at adds
      · exact ⟨early, adds, first⟩
      · obtain ⟨late, adds', acted'⟩ := ih b'
        refine ⟨late ++ early, adds.trans adds', ?_⟩
        rw [eventsOf_append]
        exact List.forall_mem_append.mpr
          ⟨first, acted'.mono (List.subset_append_right act.event?.toList _)⟩

theorem tick_traces {label : String} {early : List Event} (management : j.kind = .management)
    (tolerant : b.settings.policyFatal = false)
    (cycles : Cycles own (.custom label) j.kind n told) (acted : Policy.Acted own early)
    (same : policyOf b = .custom label) (acts : List Policy.Act) (ending : Policy.Ending)
    (offered : acts.filterMap Policy.Act.event? ⊆ own) :
    Traces (j.tick acts ending) b fun stage late => Carries own (.custom label) j.kind j.enabled
      (n + 1) stage (told ++ (.policyCycleStart label :: early) ++ late) := by
  obtain ⟨late, adds, acted'⟩ := acts_adds acts b
  have both : Policy.Acted own (early ++ eventsOf late) :=
    List.forall_mem_append.mpr ⟨acted, acted'.mono offered⟩
  refine (attempt_traces (fun _ events => events = eventsOf late) adds rfl).bind
    fun ended _ b' same' steady => ?_
  subst same'
  have closed (outcome : Except String Unit) : Traces (j.closeTick outcome) b' fun stage rest =>
      Carries own (.custom label) j.kind j.enabled (n + 1) stage
        (told ++ (.policyCycleStart label :: early) ++ (eventsOf late ++ rest)) := by
    refine (closeTick_traces management (steady.settings ▸ tolerant) cycles
      (policyOf_steady steady same) outcome (.acted both)).weaken fun _ _ carries => ?_
    simpa only [List.append_assoc, List.cons_append, Policy.label] using carries
  cases ended with
  | error text => exact closed (.error text)
  | ok =>
      cases ending with
      | waiting => exact .pure (waits _ cycles (.acting both) nofun)
      | done => exact closed (.ok ())
      | failed text => exact closed (.error text)
      | panicked text =>
          refine .pure ⟨?_, nofun⟩
          rw [List.append_nil, List.append_assoc]
          exact .unwound .ticking (by simp [management]) cycles (.acting both)

/-- Work that carries a course on, unless one of its events is refused. -/
def Continues (work : Work Stage) (b : Books) (post : Stage → List Event → Prop) : Prop :=
  ∃ late, Books.Adds late b (work.after b).2 ∧
    (Unheard late ∨ ∃ stage, (work.after b).1 = .ok stage ∧ post stage (eventsOf late))

theorem Continues.of_traces {work : Work Stage} {post : Stage → List Event → Prop}
    (traces : Traces work b post) : Continues work b post := by
  obtain ⟨late, adds, reached⟩ := traces
  refine ⟨late, adds, ?_⟩
  rcases ended : work.after b with ⟨failure | stage, left⟩ <;> rw [ended] at reached
  · exact Or.inl reached
  · exact Or.inr ⟨stage, rfl, reached⟩

/-- A watch that is not heard fails its tick. -/
theorem unresolved_continues {hostname : String} {resolution : Policy.Resolution} {event : Event}
    {text : String} {post : Stage → List Event → Prop} (management : j.kind = .management)
    (watched : (Policy.watch hostname resolution).after b = (.error text, b.tell event))
    (refused : (b.sink b.journal event).isSome = true) :
    Continues (j.resolved hostname resolution) b post := by
  have told := Books.Adds.tell b event
  have closed : Work.Tells (j.closeTick (.error text)) (b.tell event)
      (Departs (·.isOfCycle = true) j.enabled fun _ => True) :=
    closeTick_tells management _ fun _ => trivial
  obtain ⟨late, adds, _⟩ := closed
  have ended : (j.resolved hostname resolution).after b =
      (j.closeTick (.error text)).after (b.tell event) := by
    unfold resolved
    rw [Work.after_bind, after_attempt, watched]
  rw [refused] at told
  refine ⟨late ++ [.event event true], ?_, Or.inl ⟨event, ?_⟩⟩
  · rw [ended]
    exact told.trans adds
  · exact List.mem_append_right late (List.mem_singleton_self _)

/-- A change that is heard is told of, and then the clearing; the new baseline goes with it. -/
theorem changed_adds {hostname : String} {found : List Address}
    (heard : b.sink b.journal (Policy.changeTo hostname b found) = none) :
    ∃ generation dropped refused, Books.Adds ([.event (.cleared generation dropped) refused] ++
        [.event (Policy.changeTo hostname b found) false]) b
      { (b.tell (Policy.changeTo hostname b found)).clear with
        baseline := Address.canonical found } := by
  have told := Books.Adds.tell b (Policy.changeTo hostname b found)
  rw [heard] at told
  obtain ⟨generation, dropped, refused, cleared⟩ :=
    clear_adds (b.tell (Policy.changeTo hostname b found))
  obtain ⟨reports, actor, settings, timing, terminated, _⟩ := told.trans cleared
  have rebases : (Report.event (Policy.changeTo hostname b found) false).rebases = true := rfl
  exact ⟨generation, dropped, refused, reports, actor, settings, timing, terminated,
    Or.inr ⟨_, List.mem_append_right _ (List.mem_singleton_self _), rebases⟩⟩

theorem resolved_continues {hostname : String} (management : j.kind = .management)
    (tolerant : b.settings.policyFatal = false)
    (cycles : Cycles own (.addresses hostname) j.kind n told)
    (same : policyOf b = .addresses hostname) (resolution : Policy.Resolution) :
    Continues (j.resolved hostname resolution) b fun stage late =>
      Carries own (.addresses hostname) j.kind j.enabled (n + 1) stage
        (told ++ [.policyCycleStart hostname] ++ late) := by
  have closed {late : List Report} (left : Books)
      (watched : (Policy.watch hostname resolution).after b = (.ok (), left))
      (adds : Books.Adds late b left)
      (tick : Policy.Tick own (.addresses hostname) false (eventsOf late)) :
      Continues (j.resolved hostname resolution) b fun stage late =>
        Carries own (.addresses hostname) j.kind j.enabled (n + 1) stage
          (told ++ [.policyCycleStart hostname] ++ late) := by
    have answered : Traces (attempt (Policy.watch hostname resolution)) b fun outcome events =>
        outcome = .ok () ∧ events = eventsOf late :=
      attempt_traces _ (by rw [watched]; exact adds) ⟨by rw [watched], rfl⟩
    refine .of_traces (answered.bind fun outcome _ b' same' steady => ?_)
    obtain ⟨rfl, rfl⟩ := same'
    refine (closeTick_traces management (steady.settings ▸ tolerant) cycles
      (policyOf_steady steady same) (.ok ()) tick).weaken fun _ _ carries => ?_
    simpa only [List.append_assoc, List.cons_append, List.nil_append, Policy.label] using carries
  cases resolution with
  | error text =>
      have told := Books.Adds.tell b (.resolutionFailed hostname text)
      have logged : (Policy.watch hostname (.error text)).after b =
          (Tick.log (.resolutionFailed hostname text)).after b := rfl
      rw [Tick.after_log_eq] at logged
      cases heard : b.sink b.journal (.resolutionFailed hostname text) <;>
        rw [heard] at told logged
      · exact closed _ logged told (.unresolved hostname text)
      · exact unresolved_continues management logged (by rw [heard]; rfl)
  | ok found =>
      by_cases unchanged : b.baseline = Address.canonical found
      · exact closed b (Policy.watch_same unchanged) (.refl b) (.unchanged hostname)
      · cases heard : b.sink b.journal (Policy.changeTo hostname b found) with
        | some refusal =>
            exact unresolved_continues management (Policy.watch_refused unchanged heard)
              (by rw [heard]; rfl)
        | none =>
            obtain ⟨generation, dropped, refused, adds⟩ := changed_adds heard
            exact closed _ (Policy.watch_changed unchanged heard) adds
              (.changed hostname _ _ generation dropped)

/-! ## Turns -/

/-- Whether a turn in answer to a signal begins a cycle: the first one of a job that is enabled,
or the one after the last slice of its pause. -/
def begins (j : Job) (b : Books) : Signal → Bool
  | .run => j.enabled
  | .wake => j.enabled && match j.stage with
      | .sleeping nap _ => (nap.wake? b.settings.alarm b.clock).isNone
      | _ => false
  | _ => false

end Job

namespace Job
variable {j : Job} {b : Books} {signal : Signal} {work : Work Stage} {n : Nat}

/-- Every turn carries the course of its job on. -/
theorem Responds.continues (responds : j.Responds b signal work) (suits : j.stage.Suits j.kind)
    (tolerant : j.kind = .management → b.settings.policyFatal = false)
    (course : Course own (policyOf b) j.kind n j.stage told) (offered : signal.offered ⊆ own)
    (id : JobId) :
    Continues work { b with actor := some id } fun stage late =>
      Carries own (policyOf b) j.kind j.enabled (n + if j.begins b signal then 1 else 0) stage
        (told ++ late) := by
  -- A batch goes on in the middle of its cycle.
  have going {batch : Keeper.Batch} {cycles events : List Event} {m : Nat}
      (within : Cycles own (policyOf b) j.kind m cycles) (underway : Keeper.Underway batch events) :
      Carries own (policyOf b) j.kind j.enabled (m + 1) (.creating batch)
        (cycles ++ events ++ []) :=
    waits [] within ((List.append_nil events).symm ▸ underway) nofun
  cases responds with
  | run standing =>
      rw [standing] at course
      cases course with
      | unborn =>
          rw [Nat.zero_add]
          exact .of_traces (run_traces (b := { b with actor := some id }) rfl)
      | within _ underway => exact False.elim underway
  | @wake nap due standing passed =>
      rw [standing] at course
      cases course with
      | resting cycles =>
          have begun : j.begins b .wake =
              (j.enabled && (nap.wake? b.settings.alarm b.clock).isNone) := by
            simp only [begins, standing]
          rw [begun]
          exact .of_traces (wake_traces (b := { b with actor := some id }) cycles rfl nap)
      | within _ underway => exact False.elim underway
  | @launch batch standing waiting =>
      rw [standing] at course
      cases course with
      | within cycles underway =>
          exact .of_traces (batch_traces (callFactory_adds _) (List.forall_mem_singleton.mpr rfl)
            (going cycles (Keeper.launch_underway underway waiting _)))
  | @deliver batch call supply standing running =>
      rw [standing] at course
      cases course with
      | within cycles underway =>
          exact .of_traces (batch_traces (endCall_adds _ call supply)
            (List.forall_mem_singleton.mpr rfl)
            (going cycles (Keeper.deliver_underway underway running supply _)))
  | collect standing ended =>
      rw [standing] at course suits
      cases course with
      | within cycles underway => exact .of_traces (collect_traces suits ended cycles underway rfl)
  | @judge round verdict standing =>
      rw [standing] at course suits
      cases course with
      | within cycles underway =>
          exact .of_traces
            (judge_traces (b := { b with actor := some id }) suits cycles underway rfl verdict)
  | @resolved hostname resolution standing watching management =>
      rw [standing] at course
      cases course with
      | within cycles underway =>
          rw [watching] at cycles underway ⊢
          cases underway with
          | resolving =>
              exact resolved_continues (b := { b with actor := some id }) management
                (tolerant management) cycles watching resolution
  | @tick label acts ending standing custom management =>
      rw [standing] at course
      cases course with
      | within cycles underway =>
          rw [custom] at cycles underway ⊢
          cases underway with
          | acting acted =>
              exact .of_traces (tick_traces (b := { b with actor := some id }) management
                (tolerant management) cycles acted custom acts ending offered)

end Job
end ResourcePool
