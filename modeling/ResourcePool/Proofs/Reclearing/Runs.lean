import ResourcePool.Proofs.Holdings.References
import ResourcePool.Proofs.Jobs.Turns
import ResourcePool.Proofs.Reclearing.System
import ResourcePool.Proofs.System.Clearing

/-! Clearing again. What is under way across a clearing goes back to generations before it, so one
clearing more directly after it changes nothing but numbers, and no later action tells the runs
apart. -/
namespace ResourcePool
open Books (Changes)

theorem Lease.renumber_of_lt {era : Nat} {lease : Lease} (early : lease.generation < era) :
    lease.renumber era = lease := by
  simp only [Lease.renumber, ResourcePool.renumber_of_lt early]

theorem Job.renumber_eq {era : Nat} {j : Job}
    (early : ∀ batch, j.stage = .creating batch → batch.generation < era) :
    j.renumber era = j := by
  obtain ⟨kind, enabled, stage⟩ := j
  cases stage with
  | creating batch =>
      have same := renumber_of_lt (early batch rfl)
      simp only [Job.renumber, Stage.renumber, Keeper.Batch.renumber, same]
  | _ => rfl

namespace System
variable {s next : System} {a : Action} {era : Nat} {books : Books}

/-! ## Before an era -/

/-- What callers and jobs have under way was begun for generations before an era. -/
structure Predates (era : Nat) (s : System) : Prop where
  leases : ∀ lease ∈ s.leases.values, lease.generation < era
  checks : ∀ lease, .getting (.checking lease) ∈ s.calls.values → lease.generation < era
  creations : ∀ generation call, .getting (.creating generation call) ∈ s.calls.values →
    generation < era
  batches : ∀ batch, .creating batch ∈ s.stages → batch.generation < era

namespace Predates

theorem leases_eq (predates : Predates era s) : s.leases.map (Lease.renumber era) = s.leases :=
  Table.map_eq_self fun lease member => Lease.renumber_of_lt (predates.leases lease member)

theorem calls_eq (predates : Predates era s) : s.calls.map (Call.renumber era) = s.calls := by
  refine Table.map_eq_self fun call member => ?_
  cases call with
  | getting acquisition =>
      cases acquisition with
      | checking lease =>
          simp only [Call.renumber, Lease.renumber_of_lt (predates.checks lease member)]
      | creating generation call =>
          simp only [Call.renumber, renumber_of_lt (predates.creations generation call member)]
      | leased | failed | panicked => rfl
  | _ => rfl

theorem jobs_eq (predates : Predates era s) : s.jobs.map (Job.renumber era) = s.jobs :=
  Table.map_eq_self fun _ member => Job.renumber_eq fun batch standing =>
    predates.batches batch (standing ▸ List.mem_map_of_mem member)

theorem reclear_eq (predates : Predates era s) (books : Books) :
    s.reclear era books = { s with books } := by
  simp only [reclear, predates.leases_eq, predates.calls_eq, predates.jobs_eq]

end Predates

/-! ## Batches -/

theorem stages_settle (s : System) : s.settle.stages = s.stages := by
  simp only [stages, s.settle_aside.2.1]

/-- Where jobs stand after an action they stood before, unless they were spawned or had a turn. -/
theorem mem_stages_perform (orderly : s.Orderly) (numbered : s.JobsNumbered) {stage : Stage}
    (member : stage ∈ (s.perform a).stages) :
    stage ∈ s.stages ∨ stage = .spawned ∨
      ∃ job j, (s.perform a).jobs.get? job = some j ∧ j.stage = stage := by
  obtain ⟨transaction, _, transacts⟩ | ⟨_, incidental⟩ := perform_cases orderly a
  · have kept := transacts.jobs_eq
    generalize s.perform a = next at *
    cases transacts with
    | @turned job j signal work found answered =>
        obtain ⟨before, after, earlier, later⟩ := Table.values_set found (j.turn job work s.books).1
        simp only [stages, earlier, later, List.map_append, List.map_cons, List.mem_append,
          List.mem_cons] at member ⊢
        obtain early | rfl | late := member
        · exact Or.inl (Or.inl early)
        · exact Or.inr (Or.inr ⟨job, _, Table.get?_set_self .., rfl⟩)
        · exact Or.inl (Or.inr (Or.inr late))
    | _ =>
        have same := kept (by simp)
        simp only [stages, same] at member ⊢
        exact Or.inl member
  · obtain ⟨_, added, same⟩ := incidental.untouched.jobs numbered
    rw [same] at member
    obtain before | spawned := List.mem_append.mp member
    · exact Or.inl before
    · exact Or.inr (Or.inl (List.eq_of_mem_replicate spawned))

theorem mem_stages_step (orderly : s.Orderly) (numbered : s.JobsNumbered) {stage : Stage}
    (member : stage ∈ (s.step a).stages) :
    stage ∈ s.stages ∨ stage = .spawned ∨
      ∃ job j, (s.step a).jobs.get? job = some j ∧ j.stage = stage := by
  obtain same | performed := step_cases s a
  · rw [same] at member
    exact Or.inl member
  · rw [performed, stages_settle] at member
    rw [performed, (s.perform a).settle_aside.2.1]
    exact mem_stages_perform orderly numbered member

/-- A job is where it was before an action, unless it was spawned or had a turn. -/
theorem origin_step (orderly : s.Orderly) {job : JobId} {j : Job}
    (found : (s.step a).jobs.get? job = some j) :
    (∃ before, s.jobs.get? job = some before ∧ before.kind = j.kind ∧
      (before.stage = j.stage ∨ ∃ signal, a = .signal job signal)) ∨ j.stage = .spawned := by
  refine orderly.step_keeps (P := fun t => ∀ j, t.jobs.get? job = some j →
    (∃ before, s.jobs.get? job = some before ∧ before.kind = j.kind ∧
      (before.stage = j.stage ∨ ∃ signal, a = .signal job signal)) ∨ j.stage = .spawned)
    ?_ ?_ (fun _ _ kept _ _ _ => kept) j found
  · intro j found
    exact Or.inl ⟨j, found, rfl, Or.inl rfl⟩
  · intro next effect j found
    obtain ⟨before, known, kind, same⟩ | ⟨spawned, _⟩ |
      ⟨before, signal, turned, known, _, kind, _⟩ := effect.jobs job j found
    · exact Or.inl ⟨before, known, kind, Or.inl same⟩
    · exact Or.inr spawned
    · exact Or.inl ⟨before, known, kind, Or.inr ⟨signal, turned⟩⟩

/-- What a pool and all that refers to it keep in every run. -/
structure Regular (s : System) : Prop where
  orderly : s.Orderly
  attributed : s.Attributed
  accounted : s.Accounted
  dated : s.Dated
  batches : ∀ batch, .creating batch ∈ s.stages → batch.generation ≤ s.books.store.generation

namespace Regular

theorem ofSettings (id : Nat) (settings : Settings) (sink : Sink) :
    (ofSettings id settings sink).Regular where
  orderly := orderly_ofSettings id settings sink
  attributed := attributed_ofSettings id settings sink
  accounted := accounted_ofSettings id settings sink
  dated := dated_ofSettings id settings sink
  batches := nofun

theorem step (regular : s.Regular) (a : Action) : (s.step a).Regular where
  orderly := regular.orderly.step a
  attributed := regular.attributed.step a
  accounted := regular.accounted.step regular.orderly a
  dated := regular.dated.step regular.orderly a
  batches := by
    intro batch member
    obtain before | spawned | ⟨job, j, found, standing⟩ :=
      mem_stages_step regular.orderly regular.attributed.numbered member
    · exact Nat.le_trans (regular.batches batch before) (generation_step regular.orderly a)
    · contradiction
    · exact (regular.dated.step regular.orderly a).awaits _
        (Or.inr ⟨job, j, batch, found, standing, rfl⟩)

theorem run (regular : s.Regular) (actions : List Action) : (s.run actions).Regular := by
  induction actions generalizing s with
  | nil => exact regular
  | cons a rest ih => exact ih (regular.step a)

/-- What is under way predates an era if what can be looked up does. -/
theorem predates (regular : s.Regular) (leases : ∀ h l, s.leaseOf h = some l → l.generation < era)
    (creations : ∀ generation, s.Awaits generation → generation < era)
    (batches : ∀ batch, .creating batch ∈ s.stages → batch.generation < era) :
    s.Predates era where
  leases := by
    intro lease member
    obtain ⟨id, found⟩ := Table.get?_of_mem_values regular.accounted.leases member
    exact leases (.lease id) lease found
  checks := by
    intro lease member
    obtain ⟨c, found⟩ := Table.get?_of_mem_values regular.accounted.calls member
    exact leases (.call c) lease (congrArg (Option.bind · Call.lease?) found)
  creations := by
    intro generation call member
    obtain ⟨c, found⟩ := Table.get?_of_mem_values regular.accounted.calls member
    exact creations generation (Or.inl ⟨c, call, found⟩)
  batches := batches

/-- Whatever is under way predates the generations to come. -/
theorem predates_later (regular : s.Regular) (later : s.books.store.generation < era) :
    s.Predates era :=
  regular.predates
    (fun h l holds => Nat.lt_of_le_of_lt (regular.dated.made.leases h l holds).1 later)
    (fun generation awaits => Nat.lt_of_le_of_lt (regular.dated.awaits generation awaits) later)
    (fun batch member => Nat.lt_of_le_of_lt (regular.batches batch member) later)

end Regular

/-! ## After a clearing -/

namespace Clears

theorem warrants (clears : s.Clears a) (orderly : s.Orderly) : s.Warrants a .clear := by
  have kept : (s.step a).books.store.generation = s.books.store.generation ∨
      s.Warrants a .clear := by
    refine orderly.step_keeps (P := fun t =>
      t.books.store.generation = s.books.store.generation ∨ s.Warrants a .clear) (Or.inl rfl) ?_ ?_
    · intro next effect
      exact (Custody.steps_generation orderly.custody effect.custody).2
    · intro t books kept store _ _
      simpa only [store] using kept
  exact kept.resolve_left (Nat.ne_of_gt clears)

/-- Nobody begins anything for a new generation in the action that begins it. -/
theorem awaits (clears : s.Clears a) (regular : s.Regular) {generation : Nat}
    (awaits : (s.step a).Awaits generation) : generation < (s.step a).books.store.generation := by
  have regular' := regular.step a
  obtain ⟨c, resource, found⟩ | ⟨job, j, batch, found, standing, rfl⟩ := awaits
  · have since := regular.dated.since_step regular.orderly clears
    have brings : (s.step a).Brings generation resource := Or.inl ⟨c, found⟩
    by_contra late
    exact Nat.not_lt.mpr (since.brings generation resource brings (Nat.not_lt.mp late))
      (regular'.dated.begun generation resource brings)
  · obtain ⟨before, known, kind, same | ⟨signal, rfl⟩⟩ | spawned :=
      origin_step regular.orderly found
    · have awaited := regular.dated.awaits batch.generation
        (Or.inr ⟨job, before, batch, known, same.trans standing, rfl⟩)
      exact Nat.lt_of_le_of_lt awaited clears
    · -- Only policies clear, and only the keeper has batches.
      obtain ⟨ticking, known', warrant⟩ := clears.warrants regular.orderly
      cases known.symm.trans known'
      have managing := regular.attributed.suits job before known
      have keeping := regular'.attributed.suits job j found
      rw [show before.stage = .ticking from warrant] at managing
      rw [standing] at keeping
      cases managing.symm.trans (kind.trans keeping)
    · cases spawned.symm.trans standing

theorem predates (clears : s.Clears a) (regular : s.Regular) :
    (s.step a).Predates (s.step a).books.store.generation := by
  have since := regular.dated.since_step regular.orderly clears
  have regular' := regular.step a
  refine regular'.predates ?_ (fun _ => clears.awaits regular) ?_
  · intro h l holds
    by_contra late
    exact Nat.not_lt.mpr (since.made.leases h l holds (Nat.not_lt.mp late))
      (regular'.dated.made.leases h l holds).2
  · intro batch member
    obtain before | spawned | ⟨job, j, found, standing⟩ :=
      mem_stages_step regular.orderly regular.attributed.numbered member
    · exact Nat.lt_of_le_of_lt (regular.batches batch before) clears
    · contradiction
    · exact clears.awaits regular (Or.inr ⟨job, j, batch, found, standing, rfl⟩)

/-- A clearing leaves nothing in the store. -/
theorem empty (clears : s.Clears a) (regular : s.Regular) :
    (s.step a).books.store.slots = {} ∧ (s.step a).books.store.available = [] := by
  have since := regular.dated.since_step regular.orderly clears
  have regular' := regular.step a
  have sound := regular'.orderly.custody.sound
  have absent (slot : SlotId) : (s.step a).books.store.slots.get? slot = none := by
    cases found : (s.step a).books.store.slots.get? slot with
    | none => rfl
    | some entry =>
        have late := Nat.le_of_eq (sound.current slot entry found).symm
        exact absurd (regular'.dated.made.members slot entry found).2
          (Nat.not_lt.mpr (since.made.members slot entry found late))
  refine ⟨Table.eq_empty absent, List.eq_nil_iff_forall_not_mem.mpr fun slot queued => ?_⟩
  obtain ⟨entry, found, _⟩ := sound.queued queued
  cases (absent slot).symm.trans found

end Clears

/-! ## One clearing more -/

/-- Two states of which the second had one clearing more, directly after a clearing that both had:
callers cleared the pool again after an action that had, or a policy did in the same tick. The
sink answers the second run as the first from there on, or callers set one that does. -/
inductive Reclears (own : Event → Prop) (s : System) : Fork → System → System → Prop
  | caller {a : Action} : s.Clears a →
      (s.step a).present = true → (s.step a).books.terminated = false →
      ((s.step a).books.fork own).AlikeSinks (s.step a).books.sink (s.step a).books.sink →
      s.Reclears own ((s.step a).books.fork own) (s.step a) ((s.step a).step .clear)
  | setSink {a : Action} {sink : Sink} : s.Clears a →
      (s.step a).present = true → (s.step a).books.terminated = false →
      ((s.step a).books.fork own).AlikeSinks (s.step a).books.sink sink →
      s.Reclears own ((s.step a).books.fork own) (s.step a)
        (((s.step a).step .clear).step (.setSink sink))
  | policy {job : JobId} {j : Job} {label : String} {early rest : List Policy.Act} {b : Books}
      (ending : Policy.Ending) :
      s.books.terminated = false → s.jobs.get? job = some j →
      j.kind = .management → j.stage = .ticking → Job.policyOf s.books = .custom label →
      (Policy.acts early).after { s.books with actor := some job } = (.ok (), b) →
      (b.clear.fork own).AlikeSinks b.clear.sink b.clear.sink →
      (∀ event ∈ rest.filterMap Policy.Act.event?,
        (b.clear.fork own).AlikeEvents event event) →
      s.Reclears own (b.clear.fork own)
        (s.step (.signal job (.tick (early ++ .clear :: rest) ending)))
        (s.step (.signal job (.tick (early ++ .clear :: .clear :: rest) ending)))

namespace Reclears
variable {own : Event → Prop} {f : Fork} {t t' : System}

theorem ofCaller (regular : s.Regular) (clears : s.Clears a)
    (present : (s.step a).present = true) (running : (s.step a).books.terminated = false)
    (sinks : ((s.step a).books.fork own).AlikeSinks (s.step a).books.sink (s.step a).books.sink) :
    ((s.step a).books.fork own).AlikeSystems (s.step a) ((s.step a).step .clear) := by
  obtain ⟨slots, queue⟩ := clears.empty regular
  rw [step_clear present running, ← (clears.predates regular).reclear_eq]
  exact .mk (Fork.alike_clear slots queue sinks)

theorem ofSetSink {sink : Sink} (regular : s.Regular) (clears : s.Clears a)
    (present : (s.step a).present = true) (running : (s.step a).books.terminated = false)
    (sinks : ((s.step a).books.fork own).AlikeSinks (s.step a).books.sink sink) :
    ((s.step a).books.fork own).AlikeSystems (s.step a)
      (((s.step a).step .clear).step (.setSink sink)) := by
  obtain ⟨slots, queue⟩ := clears.empty regular
  have predates := clears.predates regular
  generalize s.step a = u at *
  have alike : (u.books.fork own).Alike u.books { u.books.clear with sink } :=
    Fork.alike_clear_setSink slots queue sinks
  have up : u.books.clear.terminated = false := alike.terminated.trans running
  have set : (u.step .clear).step (.setSink sink) =
      u.reclear u.books.store.generation { u.books.clear with sink } := by
    rw [step_clear present running, predates.reclear_eq]
    simp [step, up, perform, settle, present]
  rw [set]
  exact .mk alike

theorem ofPolicy {job : JobId} {j : Job} {label : String} {early rest : List Policy.Act}
    {b : Books} (regular : s.Regular) (ending : Policy.Ending)
    (running : s.books.terminated = false) (found : s.jobs.get? job = some j)
    (managing : j.kind = .management) (ticking : j.stage = .ticking)
    (policy : Job.policyOf s.books = .custom label)
    (passed : (Policy.acts early).after { s.books with actor := some job } = (.ok (), b))
    (sinks : (b.clear.fork own).AlikeSinks b.clear.sink b.clear.sink)
    (offered : ∀ event ∈ rest.filterMap Policy.Act.event?,
      (b.clear.fork own).AlikeEvents event event) :
    (b.clear.fork own).AlikeSystems
      (s.step (.signal job (.tick (early ++ .clear :: rest) ending)))
      (s.step (.signal job (.tick (early ++ .clear :: .clear :: rest) ending))) := by
  have answered (acts : List Policy.Act) :
      j.respond s.books (.tick acts ending) = some (j.tick acts ending) := by
    simp only [Job.respond, ticking, policy, managing, if_true]
  have unnumbered : j.renumber (b.clear.fork own).era = j :=
    Job.renumber_eq fun batch standing => by cases ticking.symm.trans standing
  have works : (b.clear.fork own).Works (Stage.renumber (b.clear.fork own).era)
      (j.tick (early ++ .clear :: rest) ending)
      ((j.renumber (b.clear.fork own).era).tick (early ++ .clear :: .clear :: rest) ending)
      { s.books with actor := some job } { s.books with actor := some job } :=
    Job.tick_works j ending (Policy.acts_again passed sinks offered)
  have later : s.books.store.generation < (b.clear.fork own).era := by
    have begun : Changes (fun _ => True) s.books { s.books with actor := some job } :=
      .aside rfl rfl rfl
    have acts : Changes (fun _ => True) { s.books with actor := some job }
        ((Policy.acts early).after { s.books with actor := some job }).2 :=
      Policy.changes_acts trivial early _
    rw [passed] at acts
    exact (begun.trans acts).generation_lt regular.orderly.custody.sound (.refl _)
  have predates := regular.predates_later later
  obtain ⟨answer, books⟩ := Job.turn_likewise j job works
  rw [unnumbered] at answer books
  rw [step_signal running found (answered _), step_signal running found (answered _)]
  refine Fork.AlikeSystems.settle (.kept books rfl ?_)
  simp only [reclear, predates.leases_eq, predates.calls_eq, answer, ← Table.set_map,
    predates.jobs_eq]

theorem alike (regular : s.Regular) (reclears : s.Reclears own f t t') :
    f.AlikeSystems t t' := by
  cases reclears with
  | caller clears present running sinks => exact ofCaller regular clears present running sinks
  | setSink clears present running sinks => exact ofSetSink regular clears present running sinks
  | @policy job j label early rest b ending running found managing ticking policy passed sinks
      offered =>
      exact ofPolicy regular ending running found managing ticking policy passed sinks offered

end Reclears

/-- Once the pool was cleared, clearing it again at once changes nothing for whatever happens
later, factory calls, checks and batches that straddle the clearings included: leases, calls, jobs
and the store differ in the numbers of generations begun since, which are one higher, and the
counters and the journal have one clearing more, which dropped nothing. -/
theorem clear_again (id : Nat) (settings : Settings) (sink : Sink) (before : List Action)
    {own : Event → Prop} {f : Fork} {t t' : System} {later later' : List Action}
    (reclears : ((ofSettings id settings sink).run before).Reclears own f t t')
    (actions : List.Forall₂ f.AlikeActions later later') :
    let v := t.run later
    let v' := t'.run later'
    f.AlikeSystems v v' ∧
      v'.books.store = v.books.store.renumber f.era ∧
      v'.books.counters = v.books.counters.reclear ∧
      f.AlikeJournals v.books.journal v'.books.journal ∧
      v'.alive = v.alive ∧
      ∀ c outcome, v'.calls.get? c = some (.finished outcome) ↔
        v.calls.get? c = some (.finished outcome) := by
  intro v v'
  have regular := (Regular.ofSettings id settings sink).run before
  have alike : f.AlikeSystems v v' := (reclears.alike regular).run actions
  have books := alike.books_alike
  exact ⟨alike, books.store, books.counters, books.journals, alike.alive, alike.results⟩

/-- A lease, a factory call that a get waits for and a batch of the keeper's straddle both
clearings. -/
theorem clear_again_straddling :
    let settings : Settings := { tuning := { minSpare := 2 } }
    let before := [.get, .supply 0 .made, .get, .start .keeper, .signal 4 .run, .signal 4 .launch]
    let s := (ofSettings 1 settings .accepting).run before
    let f := (s.step .clear).books.fork fun _ => False
    let t' := (s.step .clear).step .clear
    let later := [.supply 2 .made, .dropLease 1, .signal 4 (.deliver 2 .made), .signal 4 .launch,
      .signal 4 (.deliver 3 .made), .signal 4 (.collect 3 .made), .signal 4 (.collect 2 .made),
      .get, .clear, .dropLease 5]
    s.Reclears (fun _ => False) f (s.step .clear) t' ∧ List.Forall₂ f.AlikeActions later later ∧
      f.AlikeSystems ((s.step .clear).run later) (t'.run later) := by
  intro settings before s f t' later
  have clears : s.Clears .clear := by
    unfold Clears
    decide +kernel
  have present : (s.step .clear).present = true := by decide +kernel
  have running : (s.step .clear).books.terminated = false := by decide +kernel
  have accepting : (s.step .clear).books.sink = .accepting := by
    simp only [s, before, settings]
    rfl
  have sinks : f.AlikeSinks (s.step .clear).books.sink (s.step .clear).books.sink := by
    rw [accepting]
    intro _ _ _ _ _ _
    rfl
  have reclears : s.Reclears (fun _ => False) f (s.step .clear) t' :=
    .caller clears present running sinks
  have quiet : later.all (fun action => action.offered.isEmpty) = true := rfl
  have actions : List.Forall₂ f.AlikeActions later later := by
    refine List.forall₂_same.mpr fun action member => .same ?_ ?_
    · rintro sink rfl
      simp [later] at member
    · have none := List.isEmpty_iff.mp (List.all_eq_true.mp quiet action member)
      simp [none]
  exact ⟨reclears, actions, (clear_again 1 settings .accepting before reclears actions).1⟩

end System
end ResourcePool
