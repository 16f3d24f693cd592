import ResourcePool.Proofs.Address
import ResourcePool.Proofs.Upkeep.Loop

/-! What ticks report and change. A watch leaves the books as they are, but for reports, unless
it finds other addresses and is heard. -/
namespace ResourcePool
open Work (Tells)

theorem Report.isLifecycle_of_isRoutine {report : Report} (routine : report.isRoutine = true) :
    report.isLifecycle = false := by
  cases report with
  | policyStarted | policyStopped => contradiction
  | _ => rfl

namespace Tick
variable {α β : Type} {tick : Tick α} {b : Books}

theorem after_log_eq (event : Event) (b : Books) :
    (Tick.log event).after b =
      (match b.sink b.journal event with
        | none => .ok ()
        | some refusal => .error refusal.message, b.tell event) := by
  have offered : (modifyGet fun b => b.offer event : Tick _).after b =
      (.ok (b.sink b.journal event), b.tell event) := rfl
  unfold Tick.log
  rw [after_bind, offered]
  cases b.sink b.journal event <;> rfl

/-- What a stretch of a tick reports belongs to the tick: it neither starts nor stops a policy. -/
def Tells (tick : Tick α) (b : Books) : Prop :=
  ∃ told, Books.Adds told b (tick.after b).2 ∧ ∀ report ∈ told, report.isLifecycle = false

namespace Tells

theorem bind {next : α → Tick β} (first : tick.Tells b) (rest : ∀ a b', (next a).Tells b') :
    (tick >>= next).Tells b := by
  obtain ⟨early, adds, within⟩ := first
  unfold Tells
  rw [after_bind]
  rcases ended : tick.after b with ⟨text | a, b'⟩ <;> rw [ended] at adds
  · exact ⟨early, adds, within⟩
  · obtain ⟨late, adds', within'⟩ := rest a b'
    exact ⟨late ++ early, adds.trans adds', List.forall_mem_append.mpr ⟨within', within⟩⟩

theorem pure (a : α) (b : Books) : (Pure.pure a : Tick α).Tells b := ⟨[], .refl b, by simp⟩

theorem log (event : Event) (b : Books) : (Tick.log event).Tells b :=
  ⟨_, by rw [after_log_eq]; exact .tell b event, List.forall_mem_singleton.mpr rfl⟩

theorem apply {change : Books → Books} {told : List Report} (adds : Books.Adds told b (change b))
    (within : ∀ report ∈ told, report.isLifecycle = false) : (Tick.apply change).Tells b :=
  ⟨told, adds, within⟩

theorem note {report : Books → Report} (within : (report b).isLifecycle = false) :
    (Tick.apply fun b => b.note (report b)).Tells b :=
  apply (.note b _) (List.forall_mem_singleton.mpr within)

theorem clear (b : Books) : (Tick.apply Books.clear).Tells b := by
  obtain ⟨told, adds, routine⟩ := Books.Routine.clear b
  exact apply adds fun report member => Report.isLifecycle_of_isRoutine (routine report member)

end Tells
end Tick

namespace Policy

theorem act_tells (act : Act) (b : Books) : (Policy.act act).Tells b := by
  cases act with
  | clear => exact .clear b
  | log event => exact .log event b
  | tell event => exact .apply (.tell b event) (List.forall_mem_singleton.mpr rfl)
  | readPopulation | readId => exact .note rfl

theorem acts_tells (acts : List Act) (b : Books) : (Policy.acts acts).Tells b := by
  induction acts generalizing b with
  | nil => exact .pure _ b
  | cons act rest ih => exact (act_tells act b).bind fun _ b' => ih b'

/-! ## Watching -/

section
variable {hostname : String} {found : List Address} {b : Books}

/-- The change that a watch reports when it finds addresses. -/
def changeTo (hostname : String) (b : Books) (found : List Address) : Event :=
  .addressesChanged hostname b.baseline.length (Address.canonical found).length

/-- Only the set of the addresses matters. -/
theorem watch_congr (hostname : String) {found' : List Address}
    (same : found.toFinset = found'.toFinset) :
    watch hostname (.ok found) = watch hostname (.ok found') := by
  simp only [watch, Address.canonical_congr same]

theorem watch_error (hostname text : String) (b : Books) :
    ((watch hostname (.error text)).after b).2 = b.tell (.resolutionFailed hostname text) := by
  simp only [watch, Tick.after_log_eq]

theorem watch_same (same : b.baseline = Address.canonical found) :
    (watch hostname (.ok found)).after b = (.ok (), b) := by
  have seen : (get : Tick Books).after b = (.ok b, b) := rfl
  simp only [watch, Tick.after_bind, seen, if_neg (not_not.mpr same)]
  rfl

theorem watch_refused {refusal : Refusal} (changed : b.baseline ≠ Address.canonical found)
    (refused : b.sink b.journal (changeTo hostname b found) = some refusal) :
    (watch hostname (.ok found)).after b =
      (.error refusal.message, b.tell (changeTo hostname b found)) := by
  have seen : (get : Tick Books).after b = (.ok b, b) := rfl
  simp only [changeTo] at refused ⊢
  simp only [watch, Tick.after_bind, seen, if_pos changed, Tick.after_log_eq, refused]

theorem watch_changed (changed : b.baseline ≠ Address.canonical found)
    (heard : b.sink b.journal (changeTo hostname b found) = none) :
    (watch hostname (.ok found)).after b =
      (.ok (), { (b.tell (changeTo hostname b found)).clear with
        baseline := Address.canonical found }) := by
  have seen : (get : Tick Books).after b = (.ok b, b) := rfl
  simp only [changeTo] at heard ⊢
  simp only [watch, Tick.after_bind, seen, if_pos changed, Tick.after_log_eq, heard]
  rfl

end

theorem watch_tells (hostname : String) (resolution : Resolution) (b : Books) :
    (watch hostname resolution).Tells b := by
  cases resolution with
  | error text => exact .log _ b
  | ok found =>
      by_cases same : b.baseline = Address.canonical found
      · unfold Tick.Tells
        rw [watch_same same]
        exact ⟨[], .refl b, by simp⟩
      unfold Tick.Tells
      have told := Books.Adds.tell b (changeTo hostname b found)
      cases answer : b.sink b.journal (changeTo hostname b found) with
      | some refusal =>
          rw [watch_refused same answer]
          exact ⟨_, told, List.forall_mem_singleton.mpr rfl⟩
      | none =>
          rw [answer] at told
          rw [watch_changed same answer]
          obtain ⟨cleared, adds, routine⟩ :=
            Books.Routine.clear (b.tell (changeTo hostname b found))
          -- The new baseline goes with the change that was heard.
          have rebased : ∃ report ∈ cleared ++ [.event (changeTo hostname b found) false],
              report.rebases = true :=
            ⟨_, List.mem_append_right _ (List.mem_singleton_self _), rfl⟩
          obtain ⟨reports, actor, settings, timing, terminated, _⟩ := told.trans adds
          refine ⟨_, ⟨reports, actor, settings, timing, terminated, Or.inr rebased⟩, ?_⟩
          exact List.forall_mem_append.mpr ⟨fun report member =>
            Report.isLifecycle_of_isRoutine (routine report member),
            List.forall_mem_singleton.mpr rfl⟩

end Policy

namespace Job
variable {j : Job} {panics : String → Prop}

theorem after_attempt (tick : Tick Unit) (b : Books) :
    (attempt tick).after b = (.ok (tick.after b).1, (tick.after b).2) := rfl

/-- A tick that ends closes the cycle. -/
theorem attempt_tells {tick : Tick Unit} {next : Except String Unit → Work Stage} {b : Books}
    (tells : tick.Tells b) (rest : ∀ ended b', b.Steady b' → Tells (next ended) b'
      (Departs (·.isLifecycle = false) j.enabled panics)) :
    Tells (attempt tick >>= next) b (Departs (·.isLifecycle = false) j.enabled panics) := by
  obtain ⟨early, adds, within⟩ := tells
  obtain ⟨late, adds', departs⟩ := rest (tick.after b).1 (tick.after b).2 adds.steady
  unfold Tells
  rw [Work.after_bind, after_attempt]
  exact ⟨late ++ early, adds.trans adds', departs.following within fun _ => id⟩

variable {b : Books}

theorem closes (own : j.kind = .management) (ended : Except String Unit)
    (overflow : nap? b j.kind = none → panics Nap.overflow) :
    Tells (j.closeTick ended) b (Departs (·.isLifecycle = false) j.enabled panics) :=
  (closeTick_tells own ended overflow).wider fun _ => Report.isLifecycle_eq_false

theorem resolved_tells (own : j.kind = .management) (hostname : String)
    (resolution : Policy.Resolution) (overflow : nap? b j.kind = none → panics Nap.overflow) :
    Tells (j.resolved hostname resolution) b (Departs (·.isLifecycle = false) j.enabled panics) :=
  attempt_tells (Policy.watch_tells hostname resolution b) fun ended _ steady =>
    closes own ended (nap?_congr steady j.kind ▸ overflow)

theorem tick_tells (own : j.kind = .management) (acts : List Policy.Act) (ending : Policy.Ending)
    (b : Books) : Tells (j.tick acts ending) b (Departs (·.isLifecycle = false) j.enabled
      (Panics j.kind (.tick acts ending) b)) := by
  refine attempt_tells (Policy.acts_tells acts b) fun ended b' steady => ?_
  have overflow (beyond : nap? b' j.kind = none) :
      Panics j.kind (.tick acts ending) b Nap.overflow :=
    Or.inr ⟨(nap?_congr steady j.kind).symm.trans beyond, rfl⟩
  cases ended with
  | error text => exact closes own _ overflow
  | ok =>
      cases ending with
      | waiting => exact .pure Exits.ticks.departs
      | done | failed => exact closes own _ overflow
      | panicked text => exact .pure (Exits.unwound (Or.inl rfl)).departs

/-- A turn of the management job starts the policy if it is the first, and leaves the loop only
through one of its exits. -/
theorem Responds.tells {signal : Signal} {work : Work Stage} (responds : j.Responds b signal work)
    (suits : j.stage.Suits j.kind) (own : j.kind = .management) (b' : Books) :
    Tells work b' fun outcome told =>
      ∃ rest, told = rest ++ (if j.stage = .spawned then [.policyStarted] else []) ∧
        Departs (·.isLifecycle = false) j.enabled (Panics j.kind signal b') outcome rest := by
  have later (going : j.stage ≠ .spawned)
      (tells : Tells work b'
        (Departs (·.isLifecycle = false) j.enabled (Panics j.kind signal b'))) :
      Tells work b' fun outcome told =>
        ∃ rest, told = rest ++ (if j.stage = .spawned then [.policyStarted] else []) ∧
          Departs (·.isLifecycle = false) j.enabled (Panics j.kind signal b') outcome rest :=
    tells.weaken fun _ told departs => ⟨told, by rw [if_neg going, List.append_nil], departs⟩
  cases responds with
  | run standing =>
      rw [if_pos standing]
      refine (run_tells own (Panics j.kind .run b') b').weaken fun _ _ ⟨rest, told, departs⟩ => ?_
      exact ⟨rest, told, departs.wider fun _ => Report.isLifecycle_eq_false⟩
  | @wake nap due standing =>
      exact later (by simp [standing])
        ((wake_tells own nap b').wider fun _ => Report.isLifecycle_eq_false)
  | launch standing | deliver _ standing | collect standing | judge _ standing =>
      rw [standing] at suits
      cases own.symm.trans suits
  | resolved resolution standing =>
      exact later (by simp [standing])
        (resolved_tells own _ resolution fun beyond => Or.inr ⟨beyond, rfl⟩)
  | tick acts ending standing =>
      exact later (by simp [standing]) (tick_tells own acts ending b')

end Job
end ResourcePool
