import Mathlib.Data.List.Induction
import ResourcePool.Proofs.System.Run

/-! Clearing in a run. What was made for one population never gets into a later one, however
creations, leases and clearings overlap. -/
namespace ResourcePool.System
open Custody (Made)
open Books (Changes)

variable {s t next : System} {a : Action} {generation era : Nat}
variable {resource first : Resource} {job : JobId} {j : Job}

/-- Whether a factory call begun for the population of a generation may still bring its
resource in. -/
def Brings (s : System) (generation : Nat) (resource : Resource) : Prop :=
  (∃ c, s.calls.get? c = some (.getting (.creating generation resource))) ∨
    ∃ id j, s.jobs.get? id = some j ∧ j.stage.Brings resource generation

/-- Whether somebody is at making resources for the population of a generation. -/
def Awaits (s : System) (generation : Nat) : Prop :=
  (∃ c resource, s.calls.get? c = some (.getting (.creating generation resource))) ∨
    ∃ id j batch, s.jobs.get? id = some j ∧ j.stage = .creating batch ∧
      batch.generation = generation

theorem Brings.awaits (brings : s.Brings generation resource) : s.Awaits generation := by
  rcases brings with ⟨c, found⟩ | ⟨id, j, found, brings⟩
  · exact Or.inl ⟨c, resource, found⟩
  · cases standing : j.stage with
    | creating batch =>
        rw [standing] at brings
        exact Or.inr ⟨id, j, batch, found, standing, brings.1⟩
    | _ =>
        rw [standing] at brings
        exact False.elim brings

theorem Warrants.brings {operation : Store.Operation Resource} (warrant : s.Warrants a operation)
    (brings : operation.Brings resource generation) : s.Brings generation resource := by
  cases a with
  | clear =>
      subst warrant
      exact False.elim brings
  | supply c supply =>
      obtain ⟨_, _, found, rfl⟩ := warrant
      obtain ⟨rfl, rfl⟩ := brings
      exact Or.inl ⟨c, found⟩
  | signal id signal =>
      obtain ⟨j, found, warrant⟩ := warrant
      exact Or.inr ⟨id, j, found, warrant.brings brings⟩
  | _ => exact False.elim warrant

/-! ## What is under way after an action -/

theorem Frame.awaits (frame : Frame s a next) (awaits : next.Awaits generation) :
    s.Awaits generation ∨ generation = next.books.store.generation := by
  rcases awaits with ⟨c, resource, found⟩ | ⟨id, j, batch, found, standing, rfl⟩
  · rcases frame.calls c _ found with before | ⟨_, _, created⟩
    · exact Or.inl (Or.inl ⟨c, resource, before⟩)
    · exact Or.inr (created generation resource rfl).1
  · rcases frame.jobs id j found with ⟨before, stored, _, stage⟩ | ⟨spawned, _⟩ |
      ⟨before, _, _, stored, _, _, proceeds⟩
    · exact Or.inl (Or.inr ⟨id, before, batch, stored, stage.trans standing, rfl⟩)
    · cases standing.symm.trans spawned
    · rw [standing] at proceeds
      rcases proceeds with ⟨_, fresh⟩ | ⟨previous, creating, same, _⟩
      · exact Or.inr fresh
      · exact Or.inl (Or.inr ⟨id, before, previous, stored, creating, same.symm⟩)

theorem Frame.brings (frame : Frame s a next) (brings : next.Brings generation resource) :
    s.Brings generation resource ∨
      resource = s.books.calls ∧ resource < next.books.calls := by
  rcases brings with ⟨c, found⟩ | ⟨id, j, found, brings⟩
  · rcases frame.calls c _ found with before | ⟨_, _, created⟩
    · exact Or.inl (Or.inl ⟨c, before⟩)
    · exact Or.inr (created generation resource rfl).2
  · rcases frame.jobs id j found with ⟨before, stored, _, stage⟩ | ⟨spawned, _⟩ |
      ⟨before, _, _, stored, _, _, proceeds⟩
    · exact Or.inl (Or.inr ⟨id, before, stored, stage ▸ brings⟩)
    · rw [spawned] at brings
      exact False.elim brings
    · cases standing : j.stage with
      | creating batch =>
          rw [standing] at proceeds brings
          obtain ⟨rfl, member⟩ := brings
          rcases proceeds with ⟨none, _⟩ | ⟨previous, creating, same, known⟩
          · rw [none] at member
            contradiction
          · rcases known resource member with earlier | new
            · refine Or.inl (Or.inr ⟨id, before, stored, ?_⟩)
              rw [creating]
              exact ⟨same.symm, earlier⟩
            · exact Or.inr new
      | _ =>
          rw [standing] at brings
          exact False.elim brings

/-! ## Dates -/

/-- Everything is of a generation that was, and made by a factory call that has begun. -/
structure Dated (s : System) : Prop where
  awaits : ∀ generation, s.Awaits generation → generation ≤ s.books.store.generation
  begun : ∀ generation resource, s.Brings generation resource → resource < s.books.calls
  made : s.custody.Made fun generation resource =>
    generation ≤ s.books.store.generation ∧ resource < s.books.calls
  numbered : s.books.Numbered

theorem Dated.effect (dated : s.Dated) (orderly : s.Orderly) (effect : Effect s a next) :
    next.Dated := by
  have grows := (Custody.steps_generation orderly.custody effect.custody).1
  have calls := effect.changes.calls_le
  refine ⟨?_, ?_, ?_, effect.changes.numbered dated.numbered⟩
  · intro generation awaits
    rcases effect.awaits awaits with before | rfl
    · exact Nat.le_trans (dated.awaits generation before) grows
    · exact Nat.le_refl _
  · intro generation resource brings
    rcases effect.brings brings with before | ⟨_, new⟩
    · exact Nat.lt_of_lt_of_le (dated.begun generation resource before) calls
    · exact new
  · refine Made.steps (dated.made.mono fun generation resource ⟨past, begun⟩ =>
      ⟨Nat.le_trans past grows, Nat.lt_of_lt_of_le begun calls⟩) orderly.custody effect.custody ?_
    intro operation resource generation warrant brings
    have brings := warrant.brings brings
    exact ⟨Nat.le_trans (dated.awaits generation brings.awaits) grows,
      Nat.lt_of_lt_of_le (dated.begun generation resource brings) calls⟩

theorem Dated.step (dated : s.Dated) (orderly : s.Orderly) (a : Action) : (s.step a).Dated := by
  refine orderly.step_keeps dated (fun _ => dated.effect orderly) ?_
  intro t books dated store calls journal
  refine ⟨?_, ?_, ?_, ?_⟩
  · intro generation awaits
    simpa only [store] using dated.awaits generation awaits
  · intro generation resource brings
    simpa only [calls] using dated.begun generation resource brings
  · rw [custody_closed store]
    simpa only [store, calls] using dated.made.close
  · simpa only [Books.Numbered, Books.HasBegun, calls, journal] using dated.numbered

theorem Dated.run (dated : s.Dated) (orderly : s.Orderly) (actions : List Action) :
    (s.run actions).Dated :=
  orderly.run_keeps dated (fun _ a orderly dated => dated.step orderly a) actions

theorem dated_ofSettings (id : Nat) (settings : Settings) (sink : Sink) :
    (ofSettings id settings sink).Dated where
  awaits := by simp [Awaits, ofSettings]
  begun := by simp [Brings, ofSettings]
  made := custody_ofSettings id settings sink ▸ ⟨by simp, by simp⟩
  numbered := by simp [Books.Numbered, Books.HasBegun, ofSettings]

/-! ## After a clearing -/

/-- Everything of an era, or of a later one, was made by a factory call from a first one on. -/
structure Since (era : Nat) (first : Resource) (s : System) : Prop where
  reached : era ≤ s.books.store.generation
  calls : first ≤ s.books.calls
  brings : ∀ generation resource, s.Brings generation resource → era ≤ generation →
    first ≤ resource
  made : s.custody.Made fun generation resource => era ≤ generation → first ≤ resource

theorem Since.effect (since : Since era first s) (orderly : s.Orderly)
    (effect : Effect s a next) : Since era first next where
  reached := Nat.le_trans since.reached (Custody.steps_generation orderly.custody effect.custody).1
  calls := Nat.le_trans since.calls effect.changes.calls_le
  brings := by
    intro generation resource brings late
    rcases effect.brings brings with before | ⟨rfl, _⟩
    · exact since.brings generation resource before late
    · exact since.calls
  made := since.made.steps orderly.custody effect.custody
    fun _ resource generation warrant brings =>
      since.brings generation resource (warrant.brings brings)

theorem Since.close {books : Books} (since : Since era first s)
    (store : books.store = { s.books.store with slots := {}, available := [] })
    (calls : books.calls = s.books.calls) :
    Since era first { s with closed := true, books } where
  reached := by simpa only [store] using since.reached
  calls := by simpa only [calls] using since.calls
  brings := since.brings
  made := custody_closed store ▸ since.made.close

theorem Since.step (since : Since era first s) (orderly : s.Orderly) (a : Action) :
    Since era first (s.step a) :=
  orderly.step_keeps since (fun _ => since.effect orderly)
    fun _ _ since store calls _ => since.close store calls

theorem Since.run (since : Since era first s) (orderly : s.Orderly) (actions : List Action) :
    Since era first (s.run actions) :=
  orderly.run_keeps since (fun _ a orderly since => since.step orderly a) actions

/-- Where an effect clears, nothing has been made yet for the generation that begins. -/
theorem Dated.since_effect (dated : s.Dated) (orderly : s.Orderly) (effect : Effect s a next)
    (clears : s.books.store.generation < next.books.store.generation) :
    Since next.books.store.generation next.books.calls next := by
  have tooLate : ∀ generation, generation ≤ s.books.store.generation →
      ¬ next.books.store.generation ≤ generation :=
    fun _ past late => Nat.lt_irrefl _ (Nat.lt_of_lt_of_le clears (Nat.le_trans late past))
  have same : next.books.calls = s.books.calls := by
    rcases (Custody.steps_generation orderly.custody effect.custody).2 with unchanged | warrant
    · exact False.elim (Nat.ne_of_gt clears unchanged)
    · exact effect.begins.resolve_right fun barred => barred warrant
  refine ⟨Nat.le_refl _, Nat.le_refl _, ?_, ?_⟩
  · intro generation resource brings late
    rcases effect.brings brings with before | ⟨rfl, _⟩
    · exact False.elim (tooLate generation (dated.awaits generation before.awaits) late)
    · exact Nat.le_of_eq same
  · refine Made.steps (dated.made.mono fun generation _ ⟨past, _⟩ late =>
      False.elim (tooLate generation past late)) orderly.custody effect.custody ?_
    intro operation resource generation warrant brings late
    have before := (warrant.brings brings).awaits
    exact False.elim (tooLate generation (dated.awaits generation before) late)

theorem Dated.since_step (dated : s.Dated) (orderly : s.Orderly)
    (clears : s.books.store.generation < (s.step a).books.store.generation) :
    Since (s.step a).books.store.generation (s.step a).books.calls (s.step a) := by
  have effect := perform_effect orderly a
  rcases step_cases s a with same | performed
  · rw [same] at clears
    exact False.elim (Nat.lt_irrefl _ clears)
  · rcases (s.perform a).settle_cases with same | ⟨_, _, books, settled, store, calls, _⟩
    · rw [performed, same] at clears ⊢
      exact dated.since_effect orderly effect clears
    · rw [performed, settled] at clears ⊢
      simp only [store, calls] at clears ⊢
      exact (dated.since_effect orderly effect clears).close store calls

/-- A lease of a slot that an action brings about is of a generation current since. -/
theorem Orderly.new_lease {h : Holder} {l : Lease} (orderly : s.Orderly)
    (holds : (s.step a).leaseOf h = some l) (pooled : l.slot ≠ none)
    (new : ∀ h', s.leaseOf h' ≠ some l) : s.books.store.generation ≤ l.generation := by
  have effect := perform_effect orderly a
  have leaseOf : (s.step a).leaseOf = s.leaseOf ∨ (s.step a).leaseOf = (s.perform a).leaseOf := by
    rcases step_cases s a with same | performed
    · exact Or.inl (congrArg leaseOf same)
    · rcases (s.perform a).settle_cases with same | ⟨_, _, books, settled, _⟩
      · rw [performed, same]
        exact Or.inr rfl
      · rw [performed, settled]
        exact Or.inr rfl
  rcases leaseOf with same | same <;> rw [same] at holds
  · exact False.elim (new h holds)
  · rcases Custody.steps_new orderly.custody effect.custody holds pooled with ⟨h', before⟩ | late
    · exact False.elim (new h' before)
    · exact late

/-- Whether an action clears the pool: every clearing starts a new generation. Callers clear
it, and so does a policy whose tick comes to that. -/
def Clears (s : System) (a : Action) : Prop :=
  s.books.store.generation < (s.step a).books.store.generation

theorem generation_step (orderly : s.Orderly) (a : Action) :
    s.books.store.generation ≤ (s.step a).books.store.generation := by
  refine orderly.step_keeps (P := fun t =>
    s.books.store.generation ≤ t.books.store.generation) (Nat.le_refl _) ?_ ?_
  · intro next effect
    exact (Custody.steps_generation orderly.custody effect.custody).1
  · intro t books grown store _ _
    simpa only [store] using grown

theorem generation_le_run (orderly : s.Orderly) (actions : List Action) :
    s.books.store.generation ≤ (s.run actions).books.store.generation :=
  orderly.run_keeps (P := fun t => s.books.store.generation ≤ t.books.store.generation)
    (Nat.le_refl _) (fun _ a orderly grown => Nat.le_trans grown (generation_step orderly a))
    actions

/-- Whether none of some actions clears the pool. -/
def Unclears (s : System) (actions : List Action) : Prop :=
  ∀ early a late, actions = early ++ a :: late → ¬ (s.run early).Clears a

/-- The generation tells whether the pool was cleared. -/
theorem unclears_iff (orderly : s.Orderly) (actions : List Action) : s.Unclears actions ↔
    (s.run actions).books.store.generation = s.books.store.generation := by
  constructor
  · intro kept
    induction actions using List.reverseRecOn with
    | nil => rfl
    | append_singleton actions a ih =>
        have before := ih fun early first late split =>
          kept early first (late ++ [a]) (by simp [split])
        rw [run_concat, ← before]
        exact Nat.le_antisymm (Nat.le_of_not_lt (kept actions a [] rfl))
          (generation_step (orderly.run actions) a)
  · rintro same early a late rfl clears
    have later := generation_le_run ((orderly.run early).step a) late
    have grown := Nat.lt_of_le_of_lt (generation_le_run orderly early)
      (Nat.lt_of_lt_of_le clears later)
    rw [run_append] at same
    exact Nat.ne_of_gt grown same

/-- No resource is in the pool after a clearing whose factory call had begun by then. -/
theorem Clears.not_hasBegun {slot : SlotId} {entry : Slot Resource} (orderly : s.Orderly)
    (dated : s.Dated) (clears : s.Clears a) (actions : List Action)
    (found : ((s.step a).run actions).books.store.slots.get? slot = some entry) :
    ¬ (s.step a).books.HasBegun entry.resource := by
  have orderly' := orderly.step a
  have since := (dated.since_step orderly clears).run orderly' actions
  have current := (orderly'.run actions).custody.sound.current slot entry found
  have late : (s.step a).books.calls ≤ entry.resource :=
    since.made.members slot entry found (current ▸ since.reached)
  rw [(dated.step orderly a).numbered]
  exact Nat.not_lt.mpr late

/-- Callers who clear the pool do nothing else. -/
theorem step_clear (present : s.present = true) (running : s.books.terminated = false) :
    s.step .clear = { s with books := s.books.clear } := by
  simp [step, running, perform, present, callPool, settle]

theorem clears_clear (orderly : s.Orderly) (present : s.present = true)
    (running : s.books.terminated = false) : s.Clears .clear := by
  have changes : Changes (fun _ => True) s.books s.books := .refl _
  unfold Clears
  rw [step_clear present running]
  exact changes.generation_lt orderly.custody.sound (.refl _)

/-- A turn clears the pool if its work comes to a clearing, whatever it does then. -/
theorem clears_signal {signal : Signal} {work : Work Stage} {before : Books}
    (orderly : s.Orderly) (running : s.books.terminated = false)
    (found : s.jobs.get? job = some j) (answered : j.respond s.books signal = some work)
    (early : Changes (fun _ => True) { s.books with actor := some job } before)
    (late : Changes (fun _ => True) before.clear
      (work.after { s.books with actor := some job }).2) : s.Clears (.signal job signal) := by
  have begun : Changes (fun _ => True) s.books { s.books with actor := some job } :=
    .aside rfl rfl rfl
  have later := (begun.trans early).generation_lt orderly.custody.sound
    (late.trans (j.turn_changes job work s.books))
  unfold Clears
  rw [step_signal running found answered]
  rcases settle_cases _ with same | ⟨_, _, books, settled, store, _⟩
  · rw [same]
    exact later
  · rw [settled]
    simpa only [store] using later

theorem clears_tick {acts rest : List Policy.Act} {label : String} {ending : Policy.Ending}
    (orderly : s.Orderly) (running : s.books.terminated = false)
    (found : s.jobs.get? job = some j) (managing : j.kind = .management)
    (ticking : j.stage = .ticking) (policy : Job.policyOf s.books = .custom label)
    (passed : ((Policy.acts acts).after { s.books with actor := some job }).1 = .ok ()) :
    s.Clears (.signal job (.tick (acts ++ .clear :: rest) ending)) := by
  have answered : j.respond s.books (.tick (acts ++ .clear :: rest) ending) =
      some (j.tick (acts ++ .clear :: rest) ending) := by
    simp only [Job.respond, ticking, policy, managing, if_true]
  refine clears_signal orderly running found answered (Policy.changes_acts trivial acts _) ?_
  exact (Policy.acts_clear trivial passed rest).trans (j.changes_tick _ ending _)

theorem clears_resolved {hostname : String} {addresses : List Address}
    (orderly : s.Orderly) (running : s.books.terminated = false)
    (found : s.jobs.get? job = some j) (managing : j.kind = .management)
    (ticking : j.stage = .ticking) (policy : Job.policyOf s.books = .addresses hostname)
    (changed : s.books.baseline ≠ Address.canonical addresses)
    (heard : s.books.sink s.books.journal (.addressesChanged hostname s.books.baseline.length
      (Address.canonical addresses).length) = none) :
    s.Clears (.signal job (.resolved (.ok addresses))) := by
  have answered : j.respond s.books (.resolved (.ok addresses)) =
      some (j.resolved hostname (.ok addresses)) := by
    simp only [Job.respond, ticking, policy, managing, if_true]
  have cleared : Changes (fun _ => True) _ _ :=
    Policy.watch_clear (b := { s.books with actor := some job }) changed heard
  exact clears_signal orderly running found answered (.tell _ _)
    (cleared.trans (j.changes_resolved hostname _ _))

/-- After a clearing the pool has only resources of factory calls begun since, and so has every
lease of a slot that comes about; neither leases nor calls from before bring theirs in. -/
theorem clear_dominates (id : Nat) (settings : Settings) (sink : Sink) (pre : List Action)
    (a : Action) (post : List Action) (clears : ((ofSettings id settings sink).run pre).Clears a) :
    let cleared := ((ofSettings id settings sink).run pre).step a
    let s := cleared.run post
    (∀ slot entry, s.books.store.slots.get? slot = some entry →
      s.books.HasBegun entry.resource ∧ ¬ cleared.books.HasBegun entry.resource) ∧
    (∀ next h l, (s.step next).leaseOf h = some l → l.slot ≠ none →
      (∀ h', s.leaseOf h' ≠ some l) →
      (s.step next).books.HasBegun l.resource ∧ ¬ cleared.books.HasBegun l.resource) ∧
    (∀ h l, cleared.leaseOf h = some l → ∀ slot entry,
      s.books.store.slots.get? slot = some entry → entry.resource ≠ l.resource) ∧
    ∀ generation resource, cleared.Brings generation resource → ∀ slot entry,
      s.books.store.slots.get? slot = some entry → entry.resource ≠ resource := by
  intro cleared s
  have initial := orderly_ofSettings id settings sink
  have orderly := initial.run pre
  have dated := (dated_ofSettings id settings sink).run initial pre
  have orderly' : cleared.Orderly := orderly.step a
  have dated' : cleared.Dated := dated.step orderly a
  have since : Since cleared.books.store.generation cleared.books.calls s :=
    (dated.since_step orderly clears).run orderly' post
  have orderly'' : s.Orderly := orderly'.run post
  have dated'' : s.Dated := dated'.run orderly' post
  have late : ∀ slot entry, s.books.store.slots.get? slot = some entry →
      cleared.books.calls ≤ entry.resource := by
    intro slot entry found
    have current := orderly''.custody.sound.current slot entry found
    exact since.made.members slot entry found (current ▸ since.reached)
  refine ⟨?_, ?_, ?_, ?_⟩
  · intro slot entry found
    rw [dated''.numbered, dated'.numbered]
    exact ⟨(dated''.made.members slot entry found).2, Nat.not_lt.mpr (late slot entry found)⟩
  · intro next h l holds pooled new
    have reached := Nat.le_trans since.reached (orderly''.new_lease holds pooled new)
    have made := (since.step orderly'' next).made.leases h l holds reached
    rw [(dated''.step orderly'' next).numbered, dated'.numbered]
    exact ⟨((dated''.step orderly'' next).made.leases h l holds).2, Nat.not_lt.mpr made⟩
  · intro h l holds slot entry found
    have begun := (dated'.made.leases h l holds).2
    exact Nat.ne_of_gt (Nat.lt_of_lt_of_le begun (late slot entry found))
  · intro generation resource brings slot entry found
    have begun := dated'.begun generation resource brings
    exact Nat.ne_of_gt (Nat.lt_of_lt_of_le begun (late slot entry found))

/-- A lease and a factory call that straddle a clearing leave the pool to what comes later. -/
theorem clear_dominates_straddling :
    let s := (ofSettings 1 {} .accepting).run [.get, .get, .supply 0 .made]
    let cleared := s.step .clear
    let t := cleared.run
      [.supply 1 .made, .dropLease 2, .dropLease 3, .get, .supply 4 .made, .dropLease 5]
    s.Clears .clear ∧ t.books.store.members = [2] ∧
      ∀ slot entry, t.books.store.slots.get? slot = some entry →
        t.books.HasBegun entry.resource ∧ ¬ cleared.books.HasBegun entry.resource := by
  have clears : ((ofSettings 1 {} .accepting).run [.get, .get, .supply 0 .made]).Clears .clear := by
    unfold Clears
    decide
  have dominated := clear_dominates 1 {} .accepting _ .clear
    [.supply 1 .made, .dropLease 2, .dropLease 3, .get, .supply 4 .made, .dropLease 5] clears
  exact ⟨clears, by decide, dominated.1⟩

end ResourcePool.System
