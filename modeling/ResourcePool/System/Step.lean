import ResourcePool.System.Basic

/-! Everything that can happen to a pool, one uninterrupted stretch at a time. A run
is a list of actions in any order: those of callers, the answers that waiting calls
and jobs get, and the course of time. An action that makes no sense in a state
leaves it as it is. -/
namespace ResourcePool

inductive Action where
  /-- Asks for a lease; the call gets the next fresh number. -/
  | get
  | tryGet
  | dropLease (lease : LeaseId)
  /-- Takes a leased resource out of the pool for good. -/
  | detach (lease : LeaseId)
  /-- Keeps one more reference to a leased resource. -/
  | hold (lease : LeaseId)
  | letGo (handle : HandleId)
  | clear
  /-- Asks for a report of the population, whose members are checked in some order. -/
  | inspect (order : List Resource)
  | tune (tuning : Tuning)
  | start (kind : JobKind)
  | stop (kind : JobKind)
  | stopAll
  | dropPool
  /-- Gives up a waiting call. -/
  | cancel (call : CallId)
  /-- The health check that a call waits for ended. -/
  | answer (call : CallId) (verdict : Verdict)
  /-- The factory call that a call waits for ended. -/
  | supply (call : CallId) (supply : Supply)
  /-- The job that a call waits for is over. -/
  | resume (call : CallId)
  | signal (job : JobId) (signal : Signal)
  | pass (ticks : Nat)
  | setSink (sink : Sink)

namespace System

/-- Puts an acquisition on record as far as it got. -/
def recordGet (s : System) (c : CallId) : Acquisition → System
  | .leased lease =>
      let (id, s) := s.addLease lease
      s.finishCall c (.leased id)
  | .failed failure => s.finishCall c (.failed failure)
  | .panicked text => s.finishCall c (.panicked text)
  | waiting => s.setCall c (.getting waiting)

def recordInspection (s : System) (c : CallId) : Inspecting → System
  | .checking inspection => s.setCall c (.inspecting inspection)
  | .done census => s.finishCall c (.counted census)
  | .panicked text => s.finishCall c (.panicked text)

/-- Stops jobs one after another, as far as that goes without waiting. -/
def stopEach (s : System) (c : CallId) : List JobKind → System
  | [] => s.finishCall c .done
  | kind :: rest =>
      match s.unregister kind with
      | none => s.stopEach c rest
      | some (job, s) => s.setCall c (.joining job (.stop rest))

/-- Why a job cannot be started. -/
def refusesStart (settings : Settings) : JobKind → Option Failure
  | .keeper => if settings.keeperEnabled then none else some (.disabled .keeper)
  | .health =>
      if !settings.healthEnabled then some (.disabled .health)
      else if !settings.hasCheck then some (.notConfigured "health check")
      else none
  | .management =>
      if settings.policy.isNone then some (.notConfigured "pool management policy") else none

def startJob (s : System) (c : CallId) (kind : JobKind) : System :=
  match refusesStart s.books.settings kind with
  | some failure => s.finishCall c (.failed failure)
  | none =>
      match s.unregister kind with
      | none => (s.spawn kind).finishCall c .done
      | some (job, s) => s.setCall c (.joining job (.start kind))

/-- Goes on after the job that a call waited for is over. -/
def afterJoin (s : System) (c : CallId) (panic : Option String) (after : AfterJoin) : System :=
  match panic with
  | some text => s.finishCall c (.failed (.join (Failure.ofPanic text)))
  | none =>
      match after with
      | .start kind => (s.spawn kind).finishCall c .done
      | .stop rest => s.stopEach c rest

/-- A dropped lease goes back to the store, unless the books are closed. -/
def dropLease (s : System) (id : LeaseId) (lease : Lease) : System :=
  { s with
    leases := s.leases.erase id
    books := if s.closed then s.books.letGo lease.resource else s.books.release lease }

def detachLease (s : System) (id : LeaseId) (lease : Lease) : System :=
  { s with
    leases := s.leases.erase id
    books := if s.closed then s.books else s.books.forget lease }.addHandle lease.resource

def cancelCall (s : System) (c : CallId) : Call → System
  | .getting acquisition => { s with books := s.books.abandon acquisition }.setCall c .cancelled
  | .inspecting inspection =>
      { s with books := s.books.letGoAll inspection.members }.setCall c .cancelled
  | .joining .. => s.setCall c .cancelled
  | .finished _ | .cancelled => s

/-- Callers give the pool up. No call may be waiting on it; its jobs are asked to stop. -/
def dropPool (s : System) : System :=
  if s.calls.values.any Call.isWaiting then s
  else { s.disableAll with present := false, registry := {} }

def signalJob (s : System) (id : JobId) (signal : Signal) : System :=
  match s.jobs.get? id with
  | none => s
  | some j =>
      match j.respond s.books signal with
      | none => s
      | some work =>
          let (j, books) := j.turn id work s.books
          { s with books, jobs := s.jobs.set id j }

/-- What a caller does to the pool itself. -/
def callPool (s : System) : Action → System
  | .get =>
      let (c, s) := s.newId
      let (acquisition, books) := s.books.acquire
      { s with books }.recordGet c acquisition
  | .tryGet =>
      match s.books.tryAcquire with
      | (some lease, books) => ({ s with books }.addLease lease).2
      | (none, books) => { s with books }
  | .clear => { s with books := s.books.clear }
  | .inspect order =>
      let (c, s) := s.newId
      let (inspecting, books) := s.books.inspect order
      { s with books }.recordInspection c inspecting
  | .tune tuning => { s with books := { s.books with tuning } }
  | .start kind =>
      let (c, s) := s.newId
      s.startJob c kind
  | .stop kind =>
      let (c, s) := s.newId
      s.stopEach c [kind]
  | .stopAll =>
      let (c, s) := s.newId
      s.stopEach c JobKind.all
  | .dropPool => s.dropPool
  | _ => s

/-- What happens to leases, handles and waiting calls, and to the surroundings. -/
def perform (s : System) : Action → System
  | .dropLease id =>
      match s.leases.get? id with
      | some lease => s.dropLease id lease
      | none => s
  | .detach id =>
      match s.leases.get? id with
      | some lease => s.detachLease id lease
      | none => s
  | .hold id =>
      match s.leases.get? id with
      | some lease => { s with books := s.books.take lease.resource }.addHandle lease.resource
      | none => s
  | .letGo id =>
      match s.held.get? id with
      | some resource =>
          { s with held := s.held.erase id, books := s.books.letGo resource }
      | none => s
  | .cancel c =>
      match s.calls.get? c with
      | some call => s.cancelCall c call
      | none => s
  | .answer c verdict =>
      match s.calls.get? c with
      | some (.getting (.checking lease)) =>
          let (acquisition, books) := s.books.acquireChecked lease verdict
          { s with books }.recordGet c acquisition
      | some (.inspecting inspection) =>
          let (inspecting, books) := s.books.inspectChecked inspection verdict
          { s with books }.recordInspection c inspecting
      | _ => s
  | .supply c supply =>
      match s.calls.get? c with
      | some (.getting (.creating generation call)) =>
          let (acquisition, books) := s.books.acquireSupplied generation call supply
          { s with books }.recordGet c acquisition
      | _ => s
  | .resume c =>
      match s.calls.get? c with
      | some (.joining job after) =>
          match s.jobs.get? job with
          | some ⟨_, _, .ended panic⟩ => s.afterJoin c panic after
          | _ => s
      | _ => s
  | .signal id signal => s.signalJob id signal
  | .pass ticks => { s with books := { s.books with clock := s.books.clock + ticks } }
  | .setSink sink => { s with books := { s.books with sink } }
  | action => if s.present then s.callPool action else s

/-- One action. Nothing happens any more once the process is down. -/
def step (s : System) (action : Action) : System :=
  if s.books.terminated then s else (s.perform action).settle

def run (s : System) (actions : List Action) : System := actions.foldl step s

end System
end ResourcePool
