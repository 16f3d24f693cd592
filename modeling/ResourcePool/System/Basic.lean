import ResourcePool.Books.Inspect
import ResourcePool.Upkeep.Signal

/-! A pool together with all that refers to it: leases and detached resources in the
hands of callers, calls that wait, and jobs. -/
namespace ResourcePool

abbrev LeaseId := Nat

/-- A resource that a caller keeps without a lease. -/
abbrev HandleId := Nat

abbrev CallId := Nat

/-- What a call does once the job it waits for is over. -/
inductive AfterJoin where
  | start (kind : JobKind)
  | stop (rest : List JobKind)
deriving DecidableEq, Repr

inductive Outcome where
  | leased (lease : LeaseId)
  | counted (census : Census)
  | done
  | failed (failure : Failure)
  | panicked (text : String)
deriving DecidableEq, Repr

/-- A call of a caller's that may wait. -/
inductive Call where
  | getting (acquisition : Acquisition)
  | inspecting (inspection : Inspection)
  | joining (job : JobId) (after : AfterJoin)
  | finished (outcome : Outcome)
  /-- The caller gave up while the call was waiting. -/
  | cancelled
deriving DecidableEq, Repr

def Call.isWaiting : Call → Bool
  | .finished _ | .cancelled => false
  | _ => true

structure System where
  books : Books := {}
  /-- Whether callers still have the pool itself. -/
  present : Bool := true
  /-- Whether the books were closed: nobody can reach the store any more. -/
  closed : Bool := false
  leases : Table LeaseId Lease := {}
  held : Table HandleId Resource := {}
  /-- All calls ever made. -/
  calls : Table CallId Call := {}
  jobs : Table JobId Job := {}
  registry : Table JobKind JobId := {}
  /-- Next number for a lease, a handle, a call or a job. -/
  fresh : Nat := 0

namespace System

def ofSettings (id : Nat) (settings : Settings) (sink : Sink) : System where
  books := { id, settings, tuning := settings.tuning, sink }

def newId (s : System) : Nat × System := (s.fresh, { s with fresh := s.fresh + 1 })

def setCall (s : System) (c : CallId) (call : Call) : System :=
  { s with calls := s.calls.set c call }

def finishCall (s : System) (c : CallId) (outcome : Outcome) : System :=
  s.setCall c (.finished outcome)

def addLease (s : System) (lease : Lease) : LeaseId × System :=
  let (id, s) := s.newId
  (id, { s with leases := s.leases.set id lease })

def addHandle (s : System) (resource : Resource) : System :=
  let (id, s) := s.newId
  { s with held := s.held.set id resource }

/-- Asks a job to stop. -/
def disable (s : System) (job : JobId) : System :=
  match s.jobs.get? job with
  | some j => { s with jobs := s.jobs.set job { j with enabled := false } }
  | none => s

def disableAll (s : System) : System := s.registry.values.foldl disable s

/-- Spawns the job of a kind. One that is registered already loses its place and is
asked to stop. -/
def spawn (s : System) (kind : JobKind) : System :=
  let s := match s.registry.get? kind with
    | some previous => s.disable previous
    | none => s
  let (id, s) := s.newId
  { s with jobs := s.jobs.set id { kind }, registry := s.registry.set kind id }

/-- Takes the job of a kind off the registry and asks it to stop. -/
def unregister (s : System) (kind : JobKind) : Option (JobId × System) :=
  (s.registry.get? kind).map fun job =>
    (job, { s with registry := s.registry.erase kind }.disable job)

/-- Whether a job of this kind is registered and not over. -/
def isRunning (s : System) (kind : JobKind) : Bool :=
  match s.registry.get? kind with
  | some job =>
      match s.jobs.get? job with
      | some j => !j.isOver
      | none => false
  | none => false

/-- Closes the books once neither a caller nor a job can reach them: the store lets
go of its resources, and leases that are still out go nowhere when dropped. -/
def settle (s : System) : System :=
  if !s.present && !s.closed && s.jobs.values.all Job.isOver then
    { s with
      closed := true
      books := { s.books.letGoAll s.books.store.members with
        store := { s.books.store with slots := {}, available := [] } } }
  else s

/-- Resources that somebody refers to, each once. -/
def alive (s : System) : List Resource :=
  (s.books.references.mergeSort (fun a b => decide (a ≤ b))).eraseReps

end System
end ResourcePool
