import ResourcePool.Simulation.Script
import ResourcePool.System.Step

/-! A pool on a virtual clock. What is ready runs first in, first out, and what needs
no waiting runs on without giving way; the clock moves only when nothing is ready,
and then to the earliest deadline. Nobody waits longer at once than an alarm can be set
for. -/
namespace ResourcePool

namespace Simulation

inductive Errand where
  | act (action : Action)
  /-- Goes on with a tick. -/
  | continueTick (job : JobId) (steps : List TickStep)
  /-- Gives a keeper time for ended calls of its batch. -/
  | attendEnded (job : JobId)

structure Timer where
  due : Nat
  errand : Errand

/-- Ended calls that a keeper is to come to. -/
structure Backlog where
  next : List (Resource × Supply) := []
  /-- Calls put off because a turn was too short for them, the latest first. -/
  postponed : List (Resource × Supply) := []

namespace Backlog

/-- Ended calls for which a turn is long enough. -/
def turnLength : Nat := 128

/-- What is left after a turn. The first call left is put off, and those put off come back,
the latest first, once nothing else is left. -/
def leave (backlog : Backlog) : Backlog :=
  match backlog.next.drop turnLength with
  | [] => { next := backlog.postponed }
  | [call] => { next := call :: backlog.postponed }
  | call :: rest => { next := rest, postponed := call :: backlog.postponed }

end Backlog

end Simulation

open Simulation

structure Simulation where
  system : System
  script : Script := {}
  ready : List Errand := []
  /-- Deadlines in order; those set first come first of equal ones. -/
  timers : List Timer := []
  /-- Calls begun, the newest first. -/
  begun : List CallId := []
  backlogs : Table JobId Backlog := {}

namespace Simulation

def clock (m : Simulation) : Nat := m.system.books.clock

def insertTimer (timer : Timer) : List Timer → List Timer
  | [] => [timer]
  | t :: rest => if t.due ≤ timer.due then t :: insertTimer timer rest else timer :: t :: rest

/-- What needs no waiting runs before anything else that is ready. -/
def schedule (m : Simulation) (delay : Nat) (errand : Errand) : Simulation :=
  if delay = 0 then { m with ready := errand :: m.ready }
  else
    let due := m.clock + Alarm.thirtyYears.reach delay
    { m with timers := insertTimer ⟨due, errand⟩ m.timers }

/-- Lines up behind everything that is ready. -/
def lineUp (m : Simulation) (errand : Errand) : Simulation :=
  { m with ready := m.ready ++ [errand] }

def queue (m : Simulation) (action : Action) : Simulation := m.lineUp (.act action)

def backlog (m : Simulation) (job : JobId) : Backlog := (m.backlogs.get? job).getD {}

/-- A call of a keeper's batch ended. -/
def attendDelivery (m : Simulation) (job : JobId) (call : Resource) (supply : Supply) :
    Simulation :=
  let backlog := m.backlog job
  let m := { m with
    backlogs := m.backlogs.set job { backlog with next := backlog.next ++ [(call, supply)] } }
  if backlog.next.isEmpty then m.lineUp (.attendEnded job) else m

def drawSupply (m : Simulation) : Scripted × Simulation :=
  let (scripted, factory) := m.script.factory.draw
  (scripted, { m with script := { m.script with factory } })

def scheduleSupply (m : Simulation) (action : Supply → Action) : Simulation :=
  let (scripted, m) := m.drawSupply
  match scripted.result.supply? with
  | some supply => m.schedule scripted.delay (.act (action supply))
  | none => m

def scheduleCheck (m : Simulation) (resource : Resource) (action : Verdict → Action) :
    Simulation :=
  let scripted := m.script.checking.outcome resource
  match scripted.result.verdict? with
  | some verdict => m.schedule scripted.delay (.act (action verdict))
  | none => m

/-- Sets in motion what a call waits for. -/
def attendCall (m : Simulation) (c : CallId) : Simulation :=
  match m.system.calls.get? c with
  | some (.getting (.checking lease)) => m.scheduleCheck lease.resource (.answer c)
  | some (.getting (.creating _ _)) => m.scheduleSupply (.supply c)
  | some (.inspecting inspection) =>
      match inspection.pending with
      | resource :: _ => m.scheduleCheck resource (.answer c)
      | [] => m
  | some (.joining job _) =>
      match m.system.jobs.get? job with
      | some ⟨_, _, .ended _⟩ => m.schedule 0 (.act (.resume c))
      | _ => m
  | _ => m

/-- Wakes the calls that wait for a job. -/
def attendEnd (m : Simulation) (job : JobId) : Simulation :=
  m.system.calls.rows.foldl (fun m (c, call) =>
    match call with
    | .joining awaited _ => if awaited = job then m.queue (.resume c) else m
    | _ => m) m

/-- Begins a tick as the script has it. -/
def attendTick (m : Simulation) (job : JobId) : Simulation :=
  match m.script.ticking with
  | .resolutions plan =>
      let (entry, plan) := plan.draw
      { m with script := { m.script with ticking := .resolutions plan } }.schedule entry.delay
        (.act (.signal job (.resolved entry.resolution)))
  | .steps plan =>
      let (steps, plan) := plan.draw
      { m with script := { m.script with ticking := .steps plan } }.schedule 0
        (.continueTick job steps)
  | .tally seen limit =>
      let sum := seen + m.system.books.store.population.used
      let (seen, acts) := if limit ≤ sum then (0, [Policy.Act.clear]) else (sum, [])
      { m with script := { m.script with ticking := .tally seen limit } }.schedule 0
        (.act (.signal job (.tick acts .done)))

/-- Sets in motion what a job waits for after a signal. -/
def attendJob (m : Simulation) (job : JobId) (signal : Signal) : Simulation :=
  match m.system.jobs.get? job with
  | none => m
  | some j =>
      match j.stage with
      | .spawned => m
      | .creating batch =>
          match signal with
          | .launch =>
              match batch.running.getLast? with
              | some call => m.scheduleSupply fun supply => .signal job (.deliver call supply)
              | none => m
          | .deliver call supply => m.attendDelivery job call supply
          | .collect .. => m
          | _ =>
              { m with ready := m.ready ++
                  List.replicate batch.waiting (.act (.signal job .launch)) }
      | .checking round =>
          m.scheduleCheck round.resource fun verdict => .signal job (.judge verdict)
      | .ticking =>
          match signal with
          | .tick .. => m
          | _ => m.attendTick job
      | .sleeping _ wake => m.schedule (wake - m.clock) (.act (.signal job .wake))
      | .ended _ => m.attendEnd job

def accepts (s : System) (job : JobId) (signal : Signal) : Bool :=
  match s.jobs.get? job with
  | some j => (j.respond s.books signal).isSome
  | none => false

/-- Gives jobs spawned by an action their first turn. -/
def attendSpawned (m : Simulation) (before : Nat) : Simulation :=
  m.system.jobs.rows.foldl (fun m (job, j) =>
    if before ≤ job ∧ j.stage = .spawned then m.queue (.signal job .run) else m) m

def attend (m : Simulation) (before : System) : Action → Simulation
  | .get | .inspect _ | .start _ | .stop _ | .stopAll =>
      { m with begun := before.fresh :: m.begun }.attendCall before.fresh
  | .answer c _ | .supply c _ | .resume c => m.attendCall c
  | .signal job signal => if accepts before job signal then m.attendJob job signal else m
  | _ => m

def act (m : Simulation) (action : Action) : Simulation :=
  let before := m.system
  let m := { m with system := before.step action }
  (m.attend before action).attendSpawned before.fresh

def continueTick (m : Simulation) (job : JobId) (steps : List TickStep) : Simulation :=
  let (acts, ending, later) := stretch steps
  let m := m.act (.signal job (.tick acts ending))
  match later, m.system.jobs.get? job with
  | some (delay, rest), some ⟨_, _, .ticking⟩ => m.schedule delay (.continueTick job rest)
  | _, _ => m

/-- The keeper comes to ended calls of its batch, as many as it may in a turn. -/
def attendEnded (m : Simulation) (job : JobId) : Simulation :=
  let backlog := m.backlog job
  let m := { m with backlogs := m.backlogs.erase job }
  let m := (backlog.next.take Backlog.turnLength).foldl (fun m (call, supply) =>
    m.act (.signal job (.collect call supply))) m
  match m.system.jobs.get? job with
  | some ⟨_, _, .creating _⟩ =>
      let left := backlog.leave
      let m := { m with backlogs := m.backlogs.set job left }
      if left.next.isEmpty then m else m.lineUp (.attendEnded job)
  | _ => m

def isDown (m : Simulation) : Bool := m.system.books.terminated

/-- Enough turns for any run of interest. -/
def turns : Nat := 1000000000

/-- Runs what is ready, and what becomes ready by that. -/
def drainWithin : Nat → Simulation → Simulation
  | 0, m => m
  | n + 1, m =>
      if m.isDown then m
      else match m.ready with
        | [] => m
        | errand :: rest =>
            let m := { m with ready := rest }
            drainWithin n (match errand with
              | .act action => m.act action
              | .continueTick job steps => m.continueTick job steps
              | .attendEnded job => m.attendEnded job)

def drain (m : Simulation) : Simulation := drainWithin turns m

/-- Moves the clock to the earliest deadline, if there is one up to a limit. -/
def jump? (m : Simulation) (limit : Option Nat) : Option Simulation :=
  match m.timers with
  | [] => none
  | timer :: _ =>
      if limit.all (timer.due ≤ ·) then
        let due := m.timers.takeWhile (·.due ≤ timer.due)
        let m := m.act (.pass (timer.due - m.clock))
        some { m with ready := m.ready ++ due.map Timer.errand, timers := m.timers.drop due.length }
      else none

def runUntilWithin (stop : Simulation → Bool) (limit : Option Nat) : Nat → Simulation → Simulation
  | 0, m => m
  | n + 1, m =>
      let m := m.drain
      if m.isDown || stop m then m
      else match m.jump? limit with
        | none => m
        | some m => runUntilWithin stop limit n m

/-- Lets the clock run, as far ahead as an alarm can be set. What is due at the end is
done. -/
def advance (m : Simulation) (ticks : Nat) : Simulation :=
  let limit := m.clock + Alarm.thirtyYears.reach ticks
  let m := runUntilWithin (fun _ => false) (some limit) turns m
  if m.isDown then m else m.act (.pass (limit - m.clock))

def isWaiting (c : CallId) (m : Simulation) : Bool :=
  (m.system.calls.get? c).any Call.isWaiting

/-- Waits until calls are finished, and then for what can go on at that time. -/
def await (m : Simulation) (calls : List CallId) : Simulation :=
  (runUntilWithin (fun m => !calls.any (isWaiting · m)) none turns m).drain

/-- Begins a call and waits for it. -/
def call (m : Simulation) (action : Action) : CallId × Simulation :=
  let c := m.system.fresh
  (c, (m.act action).await [c])

def outcome? (m : Simulation) (c : CallId) : Option Outcome :=
  match m.system.calls.get? c with
  | some (.finished outcome) => some outcome
  | _ => none

end Simulation
end ResourcePool
