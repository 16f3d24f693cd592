import ResourcePool.Metrics.Exposition
import ResourcePool.Scenario.Step

/-! Carrying out scenarios. After each step everything runs that can do so without
moving the clock; the answer shows the time, the population, the resources that
are referred to, and what was reported meanwhile. -/
namespace ResourcePool.Scenario

structure Session where
  sim : Simulation
  view : View
  leases : Table String LeaseId := {}
  gets : Table String CallId := {}
  kept : Table String HandleId := {}
  /-- Journal entries shown so far. -/
  shown : Nat := 0
  /-- Other pools made so far. -/
  others : Nat := 0
  /-- Lines of other pools during this step. -/
  aside : List Line := []

structure Answer where
  reply : Reply
  time : Nat
  population : Option Population
  alive : List Resource
  lines : List Line

namespace Session

def ofSettings (settings : Settings) (script : Simulation.Script) (announces : Bool) : Session where
  sim := { system := .ofSettings 1 settings .accepting, script }
  view := { logging := settings.logging, announces }

def system (s : Session) : System := s.sim.system

def books (s : Session) : Books := s.sim.system.books

def act (s : Session) (action : Action) : Session := { s with sim := s.sim.act action }

def dropLease (s : Session) (name : String) (id : LeaseId) : Session :=
  { s with leases := s.leases.erase name }.act (.dropLease id)

/-- Stores a lease under a name; one that had the name is dropped after that. -/
def nameLease (s : Session) (name : String) (id : LeaseId) : Session :=
  let older := s.leases.get? name
  let s := { s with leases := s.leases.set name id }
  match older with
  | some older => s.act (.dropLease older)
  | none => s

def nameHandle (s : Session) (name : String) (id : HandleId) : Session :=
  let older := s.kept.get? name
  let s := { s with kept := s.kept.set name id }
  match older with
  | some older => s.act (.letGo older)
  | none => s

def replyLease (s : Session) (id : LeaseId) : Reply :=
  match s.system.leases.get? id with
  | some lease => .lease lease
  | none => .misstep .noLease

/-- What a finished call answers. -/
def replyCall (s : Session) (c : CallId) : Reply :=
  match s.sim.outcome? c with
  | some (.leased id) => s.replyLease id
  | some (.counted census) => .census census
  | some .done => .nothing
  | some (.failed failure) => .failed failure
  | some (.panicked text) => .panicked text
  | none => .nothing

/-- Answers a finished get, and stores what it leased. -/
def closeGet (s : Session) (name : String) (c : CallId) : Reply × Session :=
  match s.sim.outcome? c with
  | some (.leased id) => (s.replyLease id, s.nameLease name id)
  | _ => (s.replyCall c, s)

def call (s : Session) (action : Action) : Reply × Session :=
  let (c, sim) := s.sim.call action
  let s := { s with sim }
  (s.replyCall c, s)

def metrics (s : Session) : Reply :=
  match Metrics.ofPopulation? s.books.counters s.books.store.population with
  | some metrics => .metrics metrics
  | none => .panicked "attempt to subtract with overflow"

/-- Another pool of the same setup, cleared and dropped. -/
def otherPool (s : Session) : Reply × Session :=
  let id := s.books.id + s.others + 1
  let other : Books := (System.ofSettings id s.books.settings s.books.sink).books
  let other := { other with clock := s.books.clock }.clear
  (.number (id - s.books.id),
    { s with
      others := s.others + 1
      aside := lines s.view id other.journal other.journal.length })

def startBoth (s : Session) (kind : JobKind) : Reply × Session :=
  let sim := { s.sim with begun := [] }
  let sim := ((sim.queue (.start kind)).queue (.start kind)).drain
  let calls := sim.begun.reverse
  let sim := sim.await calls
  let s := { s with sim }
  match calls with
  | [first, second] => (.both (s.replyCall first) (s.replyCall second), s)
  | _ => (.nothing, s)

def setScript (s : Session) (change : Simulation.Script → Simulation.Script) : Session :=
  { s with sim := { s.sim with script := change s.sim.script } }

def replan {α : Type} (p : Simulation.Plan α) (entries : Option (List α)) (default : Option α) :
    Simulation.Plan α :=
  ⟨entries.getD p.entries, default.getD p.default⟩

def pollGet (s : Session) (name : String) (pending : CallId → Session → Reply × Session) :
    Reply × Session :=
  match s.gets.get? name with
  | none => (.misstep .noGet, s)
  | some c =>
      if Simulation.isWaiting c s.sim then pending c s
      else { s with gets := s.gets.erase name }.closeGet name c

def withLease (s : Session) (name : String) (go : LeaseId → Lease → Reply × Session) :
    Reply × Session :=
  match s.leases.get? name with
  | none => (.misstep .noLease, s)
  | some id =>
      match s.system.leases.get? id with
      | none => (.misstep .noLease, s)
      | some lease => go id lease

def perform (s : Session) : Step → Reply × Session
  | .get name =>
      let (c, sim) := s.sim.call .get
      { s with sim }.closeGet name c
  | .tryGet name =>
      let id := s.system.fresh
      let s := s.act .tryGet
      match s.system.leases.get? id with
      | some lease => (.lease lease, s.nameLease name id)
      | none => (.nothing, s)
  | .spawnGet name =>
      let c := s.system.fresh
      (.nothing, { s.act .get with gets := s.gets.set name c })
  | .pollGet name => s.pollGet name fun _ s => (.word "pending", s)
  | .cancelGet name => s.pollGet name fun c s =>
      (.word "cancelled", { s with gets := s.gets.erase name }.act (.cancel c))
  | .drop name => s.withLease name fun id _ => (.nothing, s.dropLease name id)
  | .dropAll =>
      let named := s.leases.rows.mergeSort (fun a b => decide (a.1 ≤ b.1))
      (.nothing, named.foldl (fun s (name, id) => s.dropLease name id) s)
  | .detach name as =>
      s.withLease name fun id lease =>
        let handle := s.system.fresh
        let s := { s with leases := s.leases.erase name }.act (.detach id)
        (.number lease.resource, match as with
          | some as => s.nameHandle as handle
          | none => s.act (.letGo handle))
  | .hold name as =>
      s.withLease name fun id _ =>
        let handle := s.system.fresh
        (.nothing, (s.act (.hold id)).nameHandle as handle)
  | .unhold as =>
      match s.kept.get? as with
      | some handle => (.nothing, { s with kept := s.kept.erase as }.act (.letGo handle))
      | none => (.nothing, s)
  | .lease name => s.withLease name fun _ lease => (.lease lease, s)
  | .clear => (.nothing, s.act .clear)
  | .fullState => s.call (.inspect s.sim.system.books.store.members)
  | .metrics => (s.metrics, s)
  | .export =>
      (match s.metrics with
        | .metrics metrics => .entries metrics.entries
        | other => other, s)
  | .exposition name tags =>
      (match s.metrics with
        | .metrics metrics => .lines (Exposition.lines metrics name tags)
        | other => other, s)
  | .set what value =>
      match setTuning? s.books.tuning what value with
      | some tuning => (.nothing, s.act (.tune tuning))
      | none => (.misstep .noSetting, s)
  | .settings => (.tuning s.books.tuning, s)
  | .start kind => s.call (.start kind)
  | .stop kind => s.call (.stop kind)
  | .stopAll => s.call .stopAll
  | .startBoth kind => s.startBoth kind
  | .running => (.running (JobKind.all.filter s.system.isRunning), s)
  | .advance ticks => (.nothing, { s with sim := s.sim.advance ticks })
  | .setFactory plan default =>
      (.nothing, s.setScript fun script =>
        { script with factory := replan script.factory plan default })
  | .setResolutions entries default =>
      (.nothing, s.setScript fun script =>
        match script.ticking with
        | .resolutions plan => { script with ticking := .resolutions (replan plan entries default) }
        | _ => script)
  | .setTicks entries default =>
      (.nothing, s.setScript fun script =>
        match script.ticking with
        | .steps plan => { script with ticking := .steps (replan plan entries default) }
        | _ => script)
  | .setCheck resource result =>
      (.nothing, s.setScript fun script =>
        match script.checking, resource with
        | .byResource default results, some resource =>
            { script with checking := .byResource default (results.set resource result) }
        | .byResource _ results, none => { script with checking := .byResource result results }
        | _, _ => script)
  | .setSink failing refused =>
      if s.view.logging = .sink then (.nothing, s.act (.setSink (offline failing refused)))
      else (.nothing, s)
  | .addresses =>
      match s.books.settings.policy with
      | some (.addresses hostname) => (.watch hostname s.books.baseline, s)
      | _ => (.misstep .noWatch, s)
  | .newPool => s.otherPool
  | .dropPool =>
      if s.gets.rows.isEmpty then (.nothing, s.act .dropPool)
      else (.misstep .getsPending, s)
  | .unknown => (.misstep .noStep, s)

/-- The lines that were not shown so far. -/
def newLines (s : Session) : List Line :=
  lines s.view s.books.id s.books.journal (s.books.journal.length - s.shown) ++ s.aside

def step (s : Session) (step : Step) : Answer × Session :=
  let (reply, s) :=
    if step.needsPool && !s.system.present then (.misstep .noPool, s) else s.perform step
  let s := { s with sim := s.sim.drain }
  let population := if s.system.present then some s.books.store.population else none
  (⟨reply, s.sim.clock, population, s.system.alive, s.newLines⟩,
    { s with shown := s.books.journal.length, aside := [] })

end Session

/-- The answers to a scenario. Where a failed job took the process down they end with
the lines of the step in which that happened. -/
structure Result where
  answers : List Answer
  lastWords : Option (List Line)

def run (s : Session) : List Step → Result
  | [] => ⟨[], none⟩
  | step :: rest =>
      let (answer, s) := s.step step
      if s.sim.isDown then ⟨[], some answer.lines⟩
      else
        let result := run s rest
        { result with answers := answer :: result.answers }

end ResourcePool.Scenario
