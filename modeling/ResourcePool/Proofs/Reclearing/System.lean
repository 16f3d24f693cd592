import ResourcePool.Proofs.Reclearing.Upkeep
import ResourcePool.Proofs.Jobs.Control
import ResourcePool.Proofs.System.Effect

/-! Every action keeps two pools alike of which one was cleared once more. What callers and jobs
have under way across the clearings goes on in the same way. -/
namespace ResourcePool

/-- The events that the acts of a policy offer in an action. -/
def Action.offered : Action → List Event
  | .signal _ heard => heard.offered
  | _ => []

/-- The pool of the second run that goes with that of the first. -/
def System.reclear (era : Nat) (books : Books) (s : System) : System :=
  { s with
    books
    leases := s.leases.map (Lease.renumber era)
    calls := s.calls.map (Call.renumber era)
    jobs := s.jobs.map (Job.renumber era) }

namespace Fork

inductive AlikeSystems (f : Fork) : System → System → Prop
  | mk {s : System} {books : Books} : f.Alike s.books books →
      f.AlikeSystems s (s.reclear f.era books)

/-- The same action in both runs; a sink may be another if it answers the second run as the
first one answers the first. -/
inductive AlikeActions (f : Fork) : Action → Action → Prop
  | same {action : Action} : (∀ sink, action ≠ .setSink sink) →
      (∀ event ∈ action.offered, f.AlikeEvents event event) → f.AlikeActions action action
  | setSink {sink sink' : Sink} : f.AlikeSinks sink sink' →
      f.AlikeActions (.setSink sink) (.setSink sink')

end Fork

namespace System
variable {f : Fork} {s : System} {books : Books} {era : Nat}

theorem get?_leases_reclear (s : System) (id : LeaseId) :
    (s.reclear era books).leases.get? id = (s.leases.get? id).map (Lease.renumber era) :=
  Table.get?_map ..

theorem get?_calls_reclear (s : System) (c : CallId) :
    (s.reclear era books).calls.get? c = (s.calls.get? c).map (Call.renumber era) :=
  Table.get?_map ..

theorem get?_jobs_reclear (s : System) (job : JobId) :
    (s.reclear era books).jobs.get? job = (s.jobs.get? job).map (Job.renumber era) :=
  Table.get?_map ..

/-! ## What does not touch the books -/

theorem setCall_reclear (s : System) (c : CallId) (call : Call) :
    (s.reclear era books).setCall c (call.renumber era) = (s.setCall c call).reclear era books := by
  simp only [setCall, reclear, Table.set_map]

theorem finishCall_reclear (s : System) (c : CallId) (outcome : Outcome) :
    (s.reclear era books).finishCall c outcome = (s.finishCall c outcome).reclear era books :=
  s.setCall_reclear c (.finished outcome)

theorem addLease_reclear (s : System) (lease : Lease) :
    (s.reclear era books).addLease (lease.renumber era) =
      ((s.addLease lease).1, (s.addLease lease).2.reclear era books) := by
  simp only [addLease, newId, reclear, Table.set_map]

theorem disable_reclear (s : System) (job : JobId) :
    (s.reclear era books).disable job = (s.disable job).reclear era books := by
  unfold disable
  rw [get?_jobs_reclear]
  cases s.jobs.get? job with
  | none => rfl
  | some j =>
      have asked : ({ j.renumber era with enabled := false } : Job) =
          ({ j with enabled := false } : Job).renumber era := rfl
      simp only [Option.map_some, asked]
      simp only [reclear, Table.set_map]

theorem disableAll_reclear (s : System) :
    (s.reclear era books).disableAll = s.disableAll.reclear era books := by
  have folded (jobs : List JobId) : jobs.foldl disable (s.reclear era books) =
      (jobs.foldl disable s).reclear era books := by
    induction jobs generalizing s with
    | nil => rfl
    | cons job rest ih =>
        rw [List.foldl_cons, List.foldl_cons, disable_reclear]
        exact ih (s.disable job)
  exact folded s.registry.values

theorem spawn_reclear (s : System) (kind : JobKind) :
    (s.reclear era books).spawn kind = (s.spawn kind).reclear era books := by
  have spawned (t : System) : ({ t.reclear era books with
      fresh := t.fresh + 1
      jobs := (t.jobs.map (Job.renumber era)).set t.fresh { kind }
      registry := t.registry.set kind t.fresh } : System) =
      ({ t with
        fresh := t.fresh + 1
        jobs := t.jobs.set t.fresh { kind }
        registry := t.registry.set kind t.fresh } : System).reclear era books :=
    congrArg (fun jobs => ({ t.reclear era books with
      fresh := t.fresh + 1, jobs, registry := t.registry.set kind t.fresh } : System))
      (Table.set_map (Job.renumber era) t.jobs t.fresh { kind })
  have registry : (s.reclear era books).registry = s.registry := rfl
  unfold spawn
  rw [registry]
  cases s.registry.get? kind with
  | none => exact spawned s
  | some previous =>
      simp only [disable_reclear]
      exact spawned (s.disable previous)

theorem unregister_reclear (s : System) (kind : JobKind) :
    (s.reclear era books).unregister kind =
      (s.unregister kind).map fun out => (out.1, out.2.reclear era books) := by
  have registry : (s.reclear era books).registry = s.registry := rfl
  unfold unregister
  rw [registry]
  cases s.registry.get? kind with
  | none => rfl
  | some job =>
      have vacated : (({ s with registry := s.registry.erase kind } : System).reclear era
          books).disable job =
          (({ s with registry := s.registry.erase kind } : System).disable job).reclear era books :=
        disable_reclear _ job
      exact congrArg (fun t => some (job, t)) vacated

theorem recordGet_reclear (s : System) (c : CallId) (acquisition : Acquisition) :
    (s.reclear era books).recordGet c (acquisition.renumber era) =
      (s.recordGet c acquisition).reclear era books := by
  cases acquisition with
  | leased lease =>
      simp only [Acquisition.renumber, recordGet, addLease_reclear]
      exact (s.addLease lease).2.finishCall_reclear c _
  | checking lease => exact s.setCall_reclear c (.getting (.checking lease))
  | creating generation call => exact s.setCall_reclear c (.getting (.creating generation call))
  | failed failure => exact s.finishCall_reclear c (.failed failure)
  | panicked text => exact s.finishCall_reclear c (.panicked text)

theorem recordInspection_reclear (s : System) (c : CallId) (inspecting : Inspecting) :
    (s.reclear era books).recordInspection c inspecting =
      (s.recordInspection c inspecting).reclear era books := by
  cases inspecting with
  | checking inspection => exact s.setCall_reclear c (.inspecting inspection)
  | done census => exact s.finishCall_reclear c (.counted census)
  | panicked text => exact s.finishCall_reclear c (.panicked text)

theorem stopEach_reclear (s : System) (c : CallId) (kinds : List JobKind) :
    (s.reclear era books).stopEach c kinds = (s.stopEach c kinds).reclear era books := by
  induction kinds generalizing s with
  | nil => exact s.finishCall_reclear c .done
  | cons kind rest ih =>
      unfold stopEach
      rw [unregister_reclear]
      cases s.unregister kind with
      | none => exact ih s
      | some found =>
          obtain ⟨job, t⟩ := found
          exact t.setCall_reclear c (.joining job (.stop rest))

theorem books_unregister {s next : System} {kind : JobKind} {job : JobId}
    (taken : s.unregister kind = some (job, next)) : next.books = s.books := by
  obtain ⟨_, rfl⟩ := unregister_eq_some taken
  rfl

theorem books_spawn (s : System) (kind : JobKind) : (s.spawn kind).books = s.books := by
  obtain ⟨_, _, spawned⟩ := s.spawn_eq kind
  rw [spawned]

theorem books_stopEach (s : System) (c : CallId) (kinds : List JobKind) :
    (s.stopEach c kinds).books = s.books := by
  obtain ⟨_, stopped⟩ | ⟨_, _, _, _, next, _, _, taken, stopped⟩ := s.stopEach_cases c kinds
  · rw [stopped]
    rfl
  · have kept := books_unregister taken
    rw [stopped]
    exact kept

theorem books_startJob (s : System) (c : CallId) (kind : JobKind) :
    (s.startJob c kind).books = s.books := by
  obtain ⟨_, started⟩ | ⟨_, started⟩ | ⟨_, next, taken, started⟩ := s.startJob_cases c kind
  · rw [started]
    rfl
  · rw [started]
    exact s.books_spawn kind
  · have kept := books_unregister taken
    rw [started]
    exact kept

theorem books_afterJoin (s : System) (c : CallId) (panic : Option String) (after : AfterJoin) :
    (s.afterJoin c panic after).books = s.books := by
  cases panic with
  | some text => rfl
  | none =>
      cases after with
      | start kind => exact s.books_spawn kind
      | stop rest => exact s.books_stopEach c rest

theorem startJob_reclear (s : System) (settings : books.settings = s.books.settings)
    (c : CallId) (kind : JobKind) :
    (s.reclear era books).startJob c kind = (s.startJob c kind).reclear era books := by
  have same : (s.reclear era books).books.settings = s.books.settings := settings
  unfold startJob
  rw [same]
  cases refusesStart s.books.settings kind with
  | some failure => exact s.finishCall_reclear c (.failed failure)
  | none =>
      rw [unregister_reclear]
      cases s.unregister kind with
      | none =>
          simp only [Option.map_none, spawn_reclear]
          exact (s.spawn kind).finishCall_reclear c .done
      | some found =>
          obtain ⟨job, t⟩ := found
          exact t.setCall_reclear c (.joining job (.start kind))

theorem afterJoin_reclear (s : System) (c : CallId) (panic : Option String) (after : AfterJoin) :
    (s.reclear era books).afterJoin c panic after =
      (s.afterJoin c panic after).reclear era books := by
  cases panic with
  | some text => exact s.finishCall_reclear c _
  | none =>
      cases after with
      | start kind =>
          simp only [afterJoin, spawn_reclear]
          exact (s.spawn kind).finishCall_reclear c .done
      | stop rest => exact s.stopEach_reclear c rest

end System

namespace Fork.AlikeSystems
variable {f : Fork} {s s' t t' : System} {books : Books}

theorem books_alike (alike : f.AlikeSystems s s') : f.Alike s.books s'.books := by
  cases alike
  assumption

theorem alive (alike : f.AlikeSystems s s') : s'.alive = s.alive := by
  simp only [System.alive, alike.books_alike.references]

/-- Calls come to the same results. -/
theorem results (alike : f.AlikeSystems s s') (c : CallId) (outcome : Outcome) :
    s'.calls.get? c = some (.finished outcome) ↔ s.calls.get? c = some (.finished outcome) := by
  obtain @⟨books, alike⟩ := alike
  rw [System.get?_calls_reclear]
  cases s.calls.get? c with
  | none => rfl
  | some call =>
      cases call with
      | getting acquisition => cases acquisition <;> simp [Call.renumber]
      | _ => rfl

/-- What keeps the books and passes on the numbers keeps pools alike. -/
theorem kept (alike : f.Alike s.books books) (keeps : t.books = s.books)
    (same : t' = t.reclear f.era books) : f.AlikeSystems t t' := by
  subst same
  exact .mk (keeps ▸ alike)

theorem recordGet {out out' : Acquisition × Books} (alike : f.AlikeSystems s s') (c : CallId)
    (likewise : f.Likewise (Acquisition.renumber f.era) out out') :
    f.AlikeSystems (({ s with books := out.2 } : System).recordGet c out.1)
      (({ s' with books := out'.2 } : System).recordGet c out'.1) := by
  obtain ⟨answer, books⟩ := likewise
  cases alike
  rw [answer]
  exact kept books (System.books_recordGet ..)
    (({ s with books := out.2 } : System).recordGet_reclear c out.1)

theorem recordInspection {out out' : Inspecting × Books} (alike : f.AlikeSystems s s')
    (c : CallId) (likewise : f.Likewise id out out') :
    f.AlikeSystems (({ s with books := out.2 } : System).recordInspection c out.1)
      (({ s' with books := out'.2 } : System).recordInspection c out'.1) := by
  obtain ⟨answer, books⟩ := likewise
  cases alike
  rw [answer]
  have keeps : (({ s with books := out.2 } : System).recordInspection c out.1).books = out.2 := by
    cases out.1 <;> rfl
  exact kept (s := { s with books := out.2 }) books keeps
    (({ s with books := out.2 } : System).recordInspection_reclear c out.1)

/-! ## Actions -/

theorem settle (alike : f.AlikeSystems s s') : f.AlikeSystems s.settle s'.settle := by
  obtain @⟨books, alike⟩ := alike
  have ended : (s.jobs.map (Job.renumber f.era)).values.all Job.isOver =
      s.jobs.values.all Job.isOver := by
    rw [Table.values_map, List.all_map]
    exact congrArg _ (funext fun j => j.isOver_renumber f.era)
  unfold System.settle
  simp only [System.reclear, ended]
  split
  · rw [alike.store, Store.members_renumber]
    have reached : f.era ≤
        ({ s.books.store with slots := {}, available := [] } : Store Resource).generation :=
      alike.reached
    exact .mk ((alike.letGoAll s.books.store.members).stored reached)
  · exact .mk alike

theorem dropLease (alike : f.AlikeSystems s s') (id : LeaseId) (lease : Lease) :
    f.AlikeSystems (s.dropLease id lease) (s'.dropLease id (lease.renumber f.era)) := by
  obtain @⟨books, alike⟩ := alike
  have dropped : f.Alike (if s.closed then s.books.letGo lease.resource else s.books.release lease)
      (if s.closed then books.letGo lease.resource
        else books.release (lease.renumber f.era)) := by
    split
    · exact alike.letGo lease.resource
    · exact alike.release lease
  simp only [System.dropLease, System.reclear, Table.erase_map]
  exact .mk dropped

theorem detachLease (alike : f.AlikeSystems s s') (id : LeaseId) (lease : Lease) :
    f.AlikeSystems (s.detachLease id lease) (s'.detachLease id (lease.renumber f.era)) := by
  obtain @⟨books, alike⟩ := alike
  have forgotten : f.Alike (if s.closed then s.books else s.books.forget lease)
      (if s.closed then books else books.forget (lease.renumber f.era)) := by
    split
    · exact alike
    · exact alike.forget lease
  simp only [System.detachLease, System.reclear, Table.erase_map]
  exact .mk forgotten

theorem cancelCall (alike : f.AlikeSystems s s') (c : CallId) (call : Call) :
    f.AlikeSystems (s.cancelCall c call) (s'.cancelCall c (call.renumber f.era)) := by
  obtain @⟨books, alike⟩ := alike
  cases call with
  | getting acquisition =>
      have given : f.AlikeSystems
          (({ s with books := s.books.abandon acquisition } : System).setCall c .cancelled)
          (({ s with books := s.books.abandon acquisition } : System).reclear f.era
            (books.abandon (acquisition.renumber f.era)) |>.setCall c .cancelled) :=
        kept (alike.abandon acquisition) rfl (System.setCall_reclear _ c .cancelled)
      cases acquisition <;> exact given
  | inspecting inspection =>
      exact kept (alike.letGoAll inspection.members) rfl
        (({ s with books := s.books.letGoAll inspection.members } : System).setCall_reclear c
          .cancelled)
  | joining job after => exact kept alike rfl (s.setCall_reclear c .cancelled)
  | finished | cancelled => exact .mk alike

theorem dropPool (alike : f.AlikeSystems s s') : f.AlikeSystems s.dropPool s'.dropPool := by
  obtain @⟨books, alike⟩ := alike
  have waiting : (s.calls.map (Call.renumber f.era)).values.any Call.isWaiting =
      s.calls.values.any Call.isWaiting := by
    rw [Table.values_map, List.any_map]
    exact congrArg _ (funext fun call => call.isWaiting_renumber f.era)
  have calls : (s.reclear f.era books).calls = s.calls.map (Call.renumber f.era) := rfl
  unfold System.dropPool
  rw [calls, waiting]
  split
  · exact .mk alike
  · have kept : s.disableAll.books = s.books := by rw [s.disableAll_eq]
    rw [System.disableAll_reclear]
    exact .mk (kept.symm ▸ alike)

theorem signalJob (alike : f.AlikeSystems s s') (id : JobId) (signal : Signal)
    (own : ∀ event ∈ signal.offered, f.AlikeEvents event event) :
    f.AlikeSystems (s.signalJob id signal) (s'.signalJob id signal) := by
  obtain @⟨books, alike⟩ := alike
  unfold System.signalJob
  rw [System.get?_jobs_reclear]
  cases s.jobs.get? id with
  | none => exact .mk alike
  | some j =>
      have same : (s.reclear f.era books).books = books := rfl
      simp only [Option.map_some, same]
      cases answered : j.respond s.books signal with
      | none =>
          simp only [Job.respond_renumber j signal alike answered]
          exact .mk alike
      | some work =>
          obtain ⟨work', answered', works⟩ := (Job.responds answered).works own alike
          obtain ⟨answer, left⟩ := Job.turn_likewise j id (works _ _ (alike.actAs (some id)))
          simp only [answered', answer]
          simp only [System.reclear, Table.set_map]
          exact .mk left

theorem callPool (alike : f.AlikeSystems s s') (a : Action) :
    f.AlikeSystems (s.callPool a) (s'.callPool a) := by
  obtain @⟨books, alike⟩ := alike
  have numbered : f.AlikeSystems s.newId.2 (s.reclear f.era books).newId.2 := .mk alike
  have same : (s.reclear f.era books).books = books := rfl
  cases a with
  | get => exact numbered.recordGet s.fresh alike.acquire
  | tryGet =>
      obtain ⟨answer, left⟩ := alike.tryAcquire
      unfold System.callPool
      rw [same]
      rcases taken : s.books.tryAcquire with ⟨lease, c⟩
      rcases taken' : books.tryAcquire with ⟨lease', c'⟩
      rw [taken, taken'] at answer left
      subst answer
      cases lease with
      | none => exact .mk left
      | some lease =>
          exact kept left rfl (congrArg Prod.snd
            (({ s with books := c } : System).addLease_reclear lease))
  | clear => exact .mk alike.clear
  | inspect order => exact numbered.recordInspection s.fresh (alike.inspect order)
  | tune tuning => exact .mk (alike.retune tuning)
  | start kind =>
      exact kept alike (s.newId.2.books_startJob s.fresh kind)
        (s.newId.2.startJob_reclear alike.settings s.fresh kind)
  | stop kind =>
      exact kept alike (s.newId.2.books_stopEach s.fresh [kind])
        (s.newId.2.stopEach_reclear s.fresh [kind])
  | stopAll =>
      exact kept alike (s.newId.2.books_stopEach s.fresh JobKind.all)
        (s.newId.2.stopEach_reclear s.fresh JobKind.all)
  | dropPool => exact dropPool (.mk alike)
  | _ => exact .mk alike

theorem answerCall (alike : f.AlikeSystems s s') (c : CallId) (verdict : Verdict) :
    f.AlikeSystems (s.perform (.answer c verdict)) (s'.perform (.answer c verdict)) := by
  obtain @⟨books, alike⟩ := alike
  have fork : f.AlikeSystems s (s.reclear f.era books) := .mk alike
  simp only [System.perform, System.get?_calls_reclear]
  cases s.calls.get? c with
  | none => exact fork
  | some call =>
      cases call with
      | getting acquisition =>
          cases acquisition with
          | checking lease => exact fork.recordGet c (alike.acquireChecked lease verdict)
          | leased | creating | failed | panicked => exact fork
      | inspecting inspection =>
          exact fork.recordInspection c (alike.inspectChecked inspection verdict)
      | joining | finished | cancelled => exact fork

theorem supplyCall (alike : f.AlikeSystems s s') (c : CallId) (supply : Supply) :
    f.AlikeSystems (s.perform (.supply c supply)) (s'.perform (.supply c supply)) := by
  obtain @⟨books, alike⟩ := alike
  have fork : f.AlikeSystems s (s.reclear f.era books) := .mk alike
  simp only [System.perform, System.get?_calls_reclear]
  cases s.calls.get? c with
  | none => exact fork
  | some call =>
      cases call with
      | getting acquisition =>
          cases acquisition with
          | creating generation call =>
              exact fork.recordGet c (alike.acquireSupplied generation call supply)
          | leased | checking | failed | panicked => exact fork
      | inspecting | joining | finished | cancelled => exact fork

theorem resumeCall (alike : f.AlikeSystems s s') (c : CallId) :
    f.AlikeSystems (s.perform (.resume c)) (s'.perform (.resume c)) := by
  obtain @⟨books, alike⟩ := alike
  have fork : f.AlikeSystems s (s.reclear f.era books) := .mk alike
  simp only [System.perform, System.get?_calls_reclear]
  cases s.calls.get? c with
  | none => exact fork
  | some call =>
      cases call with
      | joining job after =>
          simp only [Option.map_some, Call.renumber, System.get?_jobs_reclear]
          cases s.jobs.get? job with
          | none => exact fork
          | some j =>
              obtain ⟨kind, enabled, stage⟩ := j
              cases stage with
              | ended panic =>
                  exact kept alike (s.books_afterJoin c panic after)
                    (s.afterJoin_reclear c panic after)
              | _ => exact fork
      | getting acquisition => cases acquisition <;> exact fork
      | inspecting | finished | cancelled => exact fork

theorem perform {a a' : Action} (alike : f.AlikeSystems s s') (actions : f.AlikeActions a a') :
    f.AlikeSystems (s.perform a) (s'.perform a') := by
  have fork := alike
  obtain @⟨books, alike⟩ := alike
  have present : (s.reclear f.era books).present = s.present := rfl
  have held : (s.reclear f.era books).held = s.held := rfl
  have ofPool (a : Action) : f.AlikeSystems (if s.present then s.callPool a else s)
      (if (s.reclear f.era books).present then (s.reclear f.era books).callPool a
        else s.reclear f.era books) := by
    rw [present]
    split
    · exact fork.callPool a
    · exact fork
  cases actions with
  | setSink sinks => exact .mk (alike.setSink sinks)
  | same unset own =>
      cases a with
      | dropLease id =>
          simp only [System.perform, System.get?_leases_reclear]
          cases s.leases.get? id with
          | none => exact fork
          | some lease => exact fork.dropLease id lease
      | detach id =>
          simp only [System.perform, System.get?_leases_reclear]
          cases s.leases.get? id with
          | none => exact fork
          | some lease => exact fork.detachLease id lease
      | hold id =>
          simp only [System.perform, System.get?_leases_reclear]
          cases s.leases.get? id with
          | none => exact fork
          | some lease => exact .mk (alike.take lease.resource)
      | letGo id =>
          simp only [System.perform, held]
          cases s.held.get? id with
          | none => exact fork
          | some resource => exact .mk (alike.letGo resource)
      | cancel c =>
          simp only [System.perform, System.get?_calls_reclear]
          cases s.calls.get? c with
          | none => exact fork
          | some call => exact fork.cancelCall c call
      | answer c verdict => exact fork.answerCall c verdict
      | supply c supply => exact fork.supplyCall c supply
      | resume c => exact fork.resumeCall c
      | signal id signal => exact fork.signalJob id signal own
      | pass ticks =>
          have passed := alike.setClock (s.books.clock + ticks)
          have clock : (s.reclear f.era books).books.clock = s.books.clock := alike.clock
          simp only [System.perform, clock]
          exact .mk passed
      | setSink sink => exact absurd rfl (unset sink)
      | _ => exact ofPool _

theorem step {a a' : Action} (alike : f.AlikeSystems s s') (actions : f.AlikeActions a a') :
    f.AlikeSystems (s.step a) (s'.step a') := by
  have down : s'.books.terminated = s.books.terminated := by
    obtain ⟨alike⟩ := alike
    exact alike.terminated
  unfold System.step
  rw [down]
  split
  · exact alike
  · exact (alike.perform actions).settle

theorem run {moves moves' : List Action} (alike : f.AlikeSystems s s')
    (actions : List.Forall₂ f.AlikeActions moves moves') :
    f.AlikeSystems (s.run moves) (s'.run moves') := by
  induction actions generalizing s s' with
  | nil => exact alike
  | cons first rest ih => exact ih (alike.step first)

end Fork.AlikeSystems
end ResourcePool
