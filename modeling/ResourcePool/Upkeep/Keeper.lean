import ResourcePool.Books.Basic

/-! The resource count keeper. A cycle compares the idle population with its
bounds: surplus is disposed of, and what is missing is made by concurrent
factory calls that are admitted together. -/
namespace ResourcePool.Keeper

/-- Factory calls of one cycle. -/
structure Batch where
  needed : Nat
  /-- Generation of the population that the batch is made for. -/
  generation : Nat
  /-- Calls not begun yet. -/
  waiting : Nat
  running : List Resource
  /-- Ended calls that the keeper did not come to yet. -/
  ended : List (Resource × Supply)
  made : List Resource
deriving DecidableEq, Repr

/-- Opens a cycle; a batch is left to be made where too little is available. -/
def survey : Work (Option Batch) := do
  Work.log .keeperCycleStart
  let b ← Work.books
  let population := b.store.population
  if population.available < b.tuning.minSpare then
    let needed := b.tuning.minSpare - population.available
    Work.log (.tooFew population.available needed population.used population.size)
    return some ⟨needed, b.store.generation, needed, [], [], []⟩
  else if b.tuning.maxSpare < population.available then
    let surplus := population.available - b.tuning.maxSpare
    Work.log (.tooMany population.available surplus)
    let disposed ← modifyGet fun b =>
      let (disposed, store) := b.store.dispose surplus
      (disposed, ({ b with store }.count .disposed disposed.length).letGoAll disposed)
    Work.log (.disposing disposed.length)
    return none
  else
    Work.log (.populationOk population.available population.used population.size)
    return none

namespace Batch

/-- Begins the next call. -/
def launch (batch : Batch) (b : Books) : Batch × Books :=
  let (call, b) := b.callFactory
  ({ batch with waiting := batch.waiting - 1, running := batch.running ++ [call] }, b)

/-- A running call ended. -/
def deliver (batch : Batch) (call : Resource) (supply : Supply) (b : Books) : Batch × Books :=
  ({ batch with
      running := batch.running.erase call
      ended := batch.ended ++ [(call, supply)] }, b.endCall call supply)

def isComplete (batch : Batch) : Bool :=
  batch.waiting == 0 && batch.running.isEmpty && batch.ended.isEmpty

theorem isComplete_iff {batch : Batch} : batch.isComplete = true ↔
    batch.waiting = 0 ∧ batch.running = [] ∧ batch.ended = [] := by
  simp only [isComplete, Bool.and_eq_true, beq_iff_eq, List.isEmpty_iff, and_assoc]

end Batch

def madeIn (ended : List (Resource × Supply)) : List Resource :=
  (ended.filter (·.2 = .made)).map Prod.fst

/-- Reports a failed call. A refusal abandons everything made so far. -/
def logFailure (needed : Nat) (error : String) (made : List Resource) : Work Unit := do
  Work.apply (·.count .factoryFailures 1)
  tryCatch (Work.log (.creationFailed needed error)) fun failure => do
    Work.apply (·.letGoAll made)
    throw failure

/-- Takes off an ended call. Whichever has ended may be next. -/
def Batch.join (batch : Batch) (call : Resource) (supply : Supply) : Batch :=
  { batch with ended := batch.ended.erase (call, supply) }

/-- Takes note of how a call ended that was taken off, and keeps what it made. -/
def note (batch : Batch) (call : Resource) (supply : Supply) : Work Batch := do
  match supply.error? with
  | none => return { batch with made := batch.made ++ [call] }
  | some error =>
      logFailure batch.needed error (batch.made ++ madeIn batch.ended)
      return batch

/-- Admits a batch, or drops it if its population is gone. -/
def admitBatch (generation : Nat) (made : List Resource) : Work Unit := do
  if made.isEmpty then return
  Work.apply (·.count .created made.length)
  let b ← Work.books
  match b.store.admitAvailable made generation with
  | some store =>
      Work.apply fun b => { b with store }
      Work.log (.added made.length)
  | none =>
      Work.apply (·.letGoAll made)
      Work.log (.additionSkipped made.length)

/-- Goes on with an ended call. The batch is admitted once none is out any more. -/
def collect (batch : Batch) (call : Resource) (supply : Supply) : Work (Option Batch) := do
  let batch ← note (batch.join call supply) call supply
  if batch.isComplete then
    admitBatch batch.generation batch.made
    return none
  else
    return some batch

end ResourcePool.Keeper
