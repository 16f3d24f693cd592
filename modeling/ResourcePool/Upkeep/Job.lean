import ResourcePool.Nap
import ResourcePool.Upkeep.Health
import ResourcePool.Upkeep.Keeper
import ResourcePool.Upkeep.Policy

/-! Background jobs. A job runs cycles with pauses between them until its flag is
cleared, and notices that at the end of a cycle or of a slice of its pause. A job
that fails reports itself and may take the process down. -/
namespace ResourcePool

/-- Where a job stands between two turns. -/
inductive Stage where
  | spawned
  | creating (batch : Keeper.Batch)
  | checking (round : Health.Round)
  | ticking
  | sleeping (nap : Nap) (wake : Nat)
  /-- The job is over; a panic is kept for whoever waits for it. -/
  | ended (panic : Option String)
deriving DecidableEq, Repr

structure Job where
  kind : JobKind
  enabled : Bool := true
  stage : Stage := .spawned
deriving DecidableEq, Repr

namespace Job

def isOver (j : Job) : Bool :=
  match j.stage with
  | .ended _ => true
  | _ => false

def pauseOf (tuning : Tuning) : JobKind → Duration
  | .keeper => tuning.keeperPause
  | .health => tuning.healthPause
  | .management => tuning.policyPause

def isFatal (settings : Settings) : JobKind → Bool
  | .keeper => settings.keeperFatal
  | .health => settings.healthFatal
  | .management => settings.policyFatal

def policyOf (b : Books) : Policy := b.settings.policy.getD (.custom "")

/-- Leaves the loop. -/
def finish : JobKind → Work Stage
  | .keeper => do
      Work.log .keeperStopped
      return .ended none
  | .health => do
      Work.log .healthStopped
      return .ended none
  | .management => do
      Work.apply (·.note .policyStopped)
      Work.log (.policyStopped (policyOf (← Work.books)).label)
      return .ended none

/-- The pause of a job from now on, if the clock can tell when it is over. -/
def nap? (b : Books) (kind : JobKind) : Option Nap :=
  Nap.begin? b.settings.alarm (pauseOf b.tuning kind) b.settings.sleepPart b.clock

/-- Sleeps after a cycle. A pause without length still gives way once. The end of the pause
is worked out first, so that a job ends in a panic where the clock cannot tell it, even if
the job was asked to stop. -/
def pause (kind : JobKind) (enabled : Bool) : Work Stage := do
  let b ← Work.books
  match nap? b kind with
  | none => return .ended (some Nap.overflow)
  | some nap =>
      if enabled then
        return .sleeping nap ((nap.wake? b.settings.alarm b.clock).getD b.clock)
      else finish kind

/-- Begins a cycle. -/
def cycle (kind : JobKind) (enabled : Bool) : Work Stage := do
  match kind with
  | .keeper =>
      match ← Keeper.survey with
      | some batch => return .creating batch
      | none => pause kind enabled
  | .health =>
      match ← Health.survey with
      | some round => return .checking round
      | none => pause kind enabled
  | .management =>
      let policy := policyOf (← Work.books)
      Work.log (.policyCycleStart policy.label)
      Work.apply policy.beginTick
      return .ticking

def loop (kind : JobKind) (enabled : Bool) : Work Stage :=
  if enabled then cycle kind enabled else finish kind

/-- The first turn of a job. -/
def run (j : Job) : Work Stage := do
  if j.kind = .management then
    Work.apply fun b => (policyOf b).start b
  loop j.kind j.enabled

/-- Goes on when a slice of the pause is over. -/
def wake (j : Job) (nap : Nap) : Work Stage := do
  if j.enabled then
    let b ← Work.books
    match nap.wake? b.settings.alarm b.clock with
    | some wake => return .sleeping nap wake
    | none => cycle j.kind j.enabled
  else finish j.kind

/-- Goes on with a call of a batch that ended. -/
def collect (j : Job) (batch : Keeper.Batch) (call : Resource) (supply : Supply) :
    Work Stage := do
  match ← Keeper.collect batch call supply with
  | some batch => return .creating batch
  | none => pause j.kind j.enabled

/-- Goes on after a check. A check that panics ends the job. -/
def judge (j : Job) (round : Health.Round) : Verdict → Work Stage
  | .panicked text => do
      Work.apply (·.letGo round.resource)
      return .ended (some text)
  | verdict => do
      match ← Health.judge round verdict with
      | some round => return .checking round
      | none => pause j.kind j.enabled

/-- A failed tick ends a policy whose failure is fatal, and is an event otherwise. -/
def closeTick (j : Job) (outcome : Except String Unit) : Work Stage := do
  let b ← Work.books
  let label := (policyOf b).label
  match outcome with
  | .ok () => pure ()
  | .error text =>
      if b.settings.policyFatal then
        Work.apply (·.note .policyStopped)
        throw (.policy text)
      Work.log (.policyFailed label text)
  Work.log (.policyCycleEnd label)
  pause j.kind j.enabled

/-- Runs a stretch of a tick. -/
def attempt (tick : Tick Unit) : Work (Except String Unit) :=
  ExceptT.lift (ExceptT.run tick)

/-- Goes on when the resolver of a watching policy answered. -/
def resolved (j : Job) (hostname : String) (resolution : Policy.Resolution) : Work Stage := do
  closeTick j (← attempt (Policy.watch hostname resolution))

/-- Goes on with a stretch of the tick of a user's policy. -/
def tick (j : Job) (acts : List Policy.Act) (ending : Policy.Ending) : Work Stage := do
  match ← attempt (Policy.acts acts) with
  | .error text => closeTick j (.error text)
  | .ok () =>
      match ending with
      | .waiting => return .ticking
      | .done => closeTick j (.ok ())
      | .failed text => closeTick j (.error text)
      | .panicked text => return .ended (some text)

def failureEvent (b : Books) (error : String) : JobKind → Event
  | .keeper => .keeperFailed error
  | .health => .healthFailed error
  | .management => .policyFailed (policyOf b).label error

/-- Reports a failed job, and takes the process down if the failure is fatal. -/
def supervise (kind : JobKind) (failure : Failure) (b : Books) : Books :=
  let b := b.tell (failureEvent b failure.message kind)
  if isFatal b.settings kind then
    { b.note (.terminating kind failure.message) with terminated := true }
  else b

/-- Gives a job a turn. -/
def turn (id : JobId) (j : Job) (work : Work Stage) (b : Books) : Job × Books :=
  let (outcome, b) := (ExceptT.run work).run { b with actor := some id }
  let (stage, b) := match outcome with
    | .ok stage => (stage, b)
    | .error failure => (.ended none, supervise j.kind failure b)
  ({ j with stage }, { b with actor := none })

end Job
end ResourcePool
