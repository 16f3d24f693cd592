import ResourcePool.Proofs.Upkeep.Reports

/-! The loop of a policy. It leaves the loop when it was asked to stop or when a failed tick is
fatal, and stops the policy then; a refused event of a cycle cuts it short without that. -/
namespace ResourcePool

/-- Events of the loop around the ticks of a policy. -/
def Event.isOfCycle : Event → Bool
  | .policyCycleStart _ | .policyFailed .. | .policyCycleEnd _ => true
  | _ => false

namespace Report

/-- Reports of a cycle apart from those of the policy itself. -/
def isOfCycle : Report → Bool
  | .event e _ => e.isOfCycle
  | .resolving .. => true
  | _ => false

/-- Whether a policy starts or stops. -/
def isLifecycle : Report → Bool
  | .policyStarted | .policyStopped => true
  | _ => false

theorem isLifecycle_eq_false {report : Report} (own : report.isOfCycle = true) :
    report.isLifecycle = false := by
  cases report with
  | policyStarted | policyStopped => contradiction
  | _ => rfl

end Report

namespace Work
variable {α β : Type} {w : Work α} {b : Books} {post : Except Failure α → List Report → Prop}

/-- From some books a stretch adds reports that have a property together with its end. -/
def Tells (w : Work α) (b : Books) (post : Except Failure α → List Report → Prop) : Prop :=
  ∃ added, Books.Adds added b (w.after b).2 ∧ post (w.after b).1 added

namespace Tells

theorem pure {a : α} (holds : post (.ok a) []) : Tells (Pure.pure a) b post := ⟨[], .refl b, holds⟩

theorem throw {failure : Failure} (holds : post (.error failure) []) :
    Tells (MonadExcept.throw failure : Work α) b post := ⟨[], .refl b, holds⟩

/-- Work that looks at the books goes on with them as they are. -/
theorem books {next : Books → Work α} (tells : Tells (next b) b post) :
    Tells (Work.books >>= next) b post := tells

theorem apply {change : Books → Books} {next : Work α} {early : List Report}
    (adds : Books.Adds early b (change b))
    (rest : Tells next (change b) fun outcome late => post outcome (late ++ early)) :
    Tells (do Work.apply change; next) b post := by
  obtain ⟨late, adds', holds⟩ := rest
  exact ⟨late ++ early, adds.trans adds', holds⟩

/-- A refusal cuts a stretch short; otherwise it goes on. -/
theorem log {event : Event} {next : Work α}
    (refused : ∀ refusal, post (.error (.logging refusal)) [.event event true])
    (rest : ∀ b', b.Steady b' →
      Tells next b' fun outcome late => post outcome (late ++ [.event event false])) :
    Tells (do Work.log event; next) b post := by
  have told := Books.Adds.tell b event
  unfold Tells
  rw [after_bind, after_log]
  cases heard : b.sink b.journal event with
  | some refusal =>
      rw [heard] at told
      exact ⟨_, told, refused refusal⟩
  | none =>
      rw [heard] at told
      obtain ⟨late, adds, holds⟩ := rest (b.tell event) told.steady
      exact ⟨_, told.trans adds, holds⟩

theorem weaken {property : Except Failure α → List Report → Prop} (tells : Tells w b post)
    (weaker : ∀ outcome told, post outcome told → property outcome told) : Tells w b property := by
  obtain ⟨added, adds, holds⟩ := tells
  exact ⟨added, adds, weaker _ _ holds⟩

end Tells
end Work

open Work (Tells)

/-- How a turn of a policy's loop ends, and what it reports of that. Leaving the loop stops the
policy, unless a refused event of a cycle cut the loop short. -/
inductive Exits (enabled : Bool) (panics : String → Prop) :
    Except Failure Stage → List Report → Prop
  | ticks : Exits enabled panics (.ok .ticking) []
  | sleeps {nap : Nap} {wake : Nat} : Exits enabled panics (.ok (.sleeping nap wake)) []
  | unwound {text : String} : panics text →
      Exits enabled panics (.ok (.ended (some text))) []
  | stopped {label : String} : enabled = false →
      Exits enabled panics (.ok (.ended none))
        [.event (.policyStopped label) false, .policyStopped]
  | unheard {label : String} {refusal : Refusal} :
      Exits enabled panics (.error (.logging refusal))
        [.event (.policyStopped label) true, .policyStopped]
  | failed {text : String} : Exits enabled panics (.error (.policy text)) [.policyStopped]
  | cut {event : Event} {refusal : Refusal} : event.isOfCycle = true →
      Exits enabled panics (.error (.logging refusal)) [.event event true]

/-- A turn of a policy's loop reports things of its own before it ends. -/
def Departs (own : Report → Prop) (enabled : Bool) (panics : String → Prop)
    (outcome : Except Failure Stage) (told : List Report) : Prop :=
  ∃ exit rest, told = exit ++ rest ∧ Exits enabled panics outcome exit ∧ ∀ report ∈ rest, own report

namespace Exits
variable {own : Report → Prop} {enabled : Bool} {panics : String → Prop}
variable {outcome : Except Failure Stage} {exit : List Report}

theorem departs (exits : Exits enabled panics outcome exit) :
    Departs own enabled panics outcome exit :=
  ⟨exit, [], (List.append_nil exit).symm, exits, by simp⟩

theorem follows {stage : Stage} (exits : Exits enabled panics (.ok stage) exit) {kind : JobKind}
    (management : kind = .management) : stage.Follows kind enabled panics := by
  cases exits with
  | ticks => exact management
  | sleeps => trivial
  | unwound same => exact same
  | stopped asked => exact asked

end Exits

namespace Departs
variable {own other : Report → Prop} {enabled : Bool} {panics : String → Prop}
variable {outcome : Except Failure Stage} {told early : List Report}

/-- Also what was reported earlier in the turn. -/
theorem following (departs : Departs own enabled panics outcome told)
    (before : ∀ report ∈ early, other report) (wider : ∀ report, own report → other report) :
    Departs other enabled panics outcome (told ++ early) := by
  obtain ⟨exit, rest, rfl, exits, within⟩ := departs
  refine ⟨exit, rest ++ early, List.append_assoc .., exits, ?_⟩
  exact List.forall_mem_append.mpr
    ⟨fun report member => wider report (within report member), before⟩

theorem wider (departs : Departs own enabled panics outcome told)
    (wider : ∀ report, own report → other report) : Departs other enabled panics outcome told := by
  obtain ⟨exit, rest, same, exits, within⟩ := departs
  exact ⟨exit, rest, same, exits, fun report member => wider report (within report member)⟩

/-- An event of a cycle, and what follows it if the sink hears of it. -/
theorem log {event : Event} {next : Work Stage} {b : Books} (cycle : event.isOfCycle = true)
    (rest : ∀ b', b.Steady b' → Tells next b' (Departs (·.isOfCycle = true) enabled panics)) :
    Tells (do Work.log event; next) b (Departs (·.isOfCycle = true) enabled panics) := by
  refine .log (fun refusal => (Exits.cut cycle).departs) fun b' steady =>
    (rest b' steady).weaken ?_
  exact fun _ _ departs => departs.following (List.forall_mem_singleton.mpr cycle) fun _ => id

end Departs

theorem Work.Tells.wider {own other : Report → Prop} {enabled : Bool} {panics : String → Prop}
    {work : Work Stage} {b : Books} (tells : Tells work b (Departs own enabled panics))
    (wider : ∀ report, own report → other report) : Tells work b (Departs other enabled panics) :=
  tells.weaken fun _ _ departs => departs.wider wider

namespace Job
variable {enabled : Bool} {panics : String → Prop} {b : Books}

/-- Leaving the loop stops the policy, whether the sink hears of it or not. -/
theorem finish_tells (asked : enabled = false) (b : Books) :
    Tells (finish .management) b (Departs (·.isOfCycle = true) enabled panics) := by
  refine Tells.apply (.note b .policyStopped) (.books ?_)
  exact .log (fun refusal => Exits.unheard.departs) fun b' _ => .pure (Exits.stopped asked).departs

theorem pause_tells (overflow : nap? b .management = none → panics Nap.overflow) :
    Tells (pause .management enabled) b (Departs (·.isOfCycle = true) enabled panics) := by
  refine .books ?_
  cases beyond : nap? b .management with
  | none => exact .pure (Exits.unwound (overflow beyond)).departs
  | some nap =>
      cases enabled with
      | true => exact .pure Exits.sleeps.departs
      | false => exact finish_tells rfl b

theorem beginTick_adds (policy : Policy) (b : Books) :
    ∃ told, Books.Adds told b (policy.beginTick b) ∧
      ∀ report ∈ told, report.isOfCycle = true := by
  cases policy with
  | addresses hostname =>
      have built : Books.Adds [] b { b with resolvers := b.resolvers + 1 } :=
        .aside rfl rfl rfl rfl rfl rfl
      exact ⟨_, built.trans (.note _ _), by simp [Report.isOfCycle]⟩
  | custom label => exact ⟨[], .refl b, by simp⟩

theorem cycle_tells (b : Books) :
    Tells (cycle .management enabled) b (Departs (·.isOfCycle = true) enabled panics) := by
  refine .books (Departs.log rfl fun b' _ => ?_)
  obtain ⟨told, adds, within⟩ := beginTick_adds (policyOf b) b'
  exact .apply adds (.pure ⟨[], told, rfl, .ticks, within⟩)

theorem loop_tells (b : Books) :
    Tells (loop .management enabled) b (Departs (·.isOfCycle = true) enabled panics) := by
  cases enabled with
  | true => exact cycle_tells b
  | false => exact finish_tells rfl b

theorem start_adds (policy : Policy) (b : Books) :
    Books.Adds [.policyStarted] b (policy.start b) := by
  cases policy with
  | addresses hostname =>
      exact ⟨b.reportsOf_note .policyStarted, rfl, rfl, rfl, rfl,
        Or.inr ⟨.policyStarted, List.mem_singleton_self _, rfl⟩⟩
  | custom label => exact .note b _

variable {j : Job}

/-- The policy starts before all else. -/
theorem run_tells (own : j.kind = .management) (panics : String → Prop) (b : Books) :
    Tells j.run b fun outcome told => ∃ rest, told = rest ++ [.policyStarted] ∧
      Departs (·.isOfCycle = true) j.enabled panics outcome rest := by
  have looped : Tells (loop j.kind j.enabled) ((policyOf b).start b)
      (Departs (·.isOfCycle = true) j.enabled panics) := own ▸ loop_tells _
  unfold run
  rw [if_pos own]
  exact .apply (start_adds (policyOf b) b)
    (looped.weaken fun _ told departs => ⟨told, rfl, departs⟩)

theorem wake_tells (own : j.kind = .management) (nap : Nap) (b : Books) :
    Tells (j.wake nap) b (Departs (·.isOfCycle = true) j.enabled panics) := by
  unfold wake
  rw [own]
  cases enabled : j.enabled with
  | true =>
      refine .books ?_
      cases nap.wake? b.settings.alarm b.clock with
      | none => exact cycle_tells b
      | some wake => exact .pure Exits.sleeps.departs
  | false => exact finish_tells rfl b

theorem closeTick_tells (own : j.kind = .management) (ended : Except String Unit)
    (overflow : nap? b j.kind = none → panics Nap.overflow) :
    Tells (j.closeTick ended) b (Departs (·.isOfCycle = true) j.enabled panics) := by
  rw [own] at overflow
  have closed (label : String) {b : Books}
      (overflow : nap? b .management = none → panics Nap.overflow) : Tells (do
        Work.log (.policyCycleEnd label)
        pause j.kind j.enabled) b (Departs (·.isOfCycle = true) j.enabled panics) :=
    Departs.log rfl fun _ steady =>
      own ▸ pause_tells (nap?_congr steady .management ▸ overflow)
  refine .books ?_
  cases ended with
  | ok => exact closed _ overflow
  | error text =>
      simp only
      split
      · exact .apply (.note b .policyStopped) (.throw Exits.failed.departs)
      · exact Departs.log rfl fun _ steady =>
          closed _ (nap?_congr steady .management ▸ overflow)

end Job
end ResourcePool
