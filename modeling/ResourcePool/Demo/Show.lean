import ResourcePool.Scenario.Step

/-! Demonstrations: small programs that use pools and tell what they see. -/
namespace ResourcePool.Demo

/-- One pool of a demonstration and what was told so far. -/
structure Show where
  sim : Simulation
  told : List String := []

namespace Show

def ofSettings (id : Nat) (settings : Settings) (script : Simulation.Script) : Show where
  sim := { system := .ofSettings id settings .accepting, script }

def tell (s : Show) (line : String) : Show := { s with told := s.told ++ [line] }

def act (s : Show) (action : Action) : Show := { s with sim := s.sim.act action }

/-- Makes a call of the pool and waits for it. -/
def call (s : Show) (action : Action) : Show := { s with sim := (s.sim.call action).2 }

/-- Leases a resource; the lease is told by its number. -/
def lease (s : Show) : Option (LeaseId × Resource) × Show :=
  let (c, sim) := s.sim.call .get
  let leased := match sim.outcome? c with
    | some (.leased id) => (sim.system.leases.get? id).map (id, ·.resource)
    | _ => none
  (leased, { s with sim })

def returnLease (s : Show) (lease : Option (LeaseId × Resource)) : Show :=
  match lease with
  | some (id, _) => s.act (.dropLease id)
  | none => s

def sleep (s : Show) (ticks : Nat) : Show := { s with sim := s.sim.advance ticks }

def books (s : Show) : Books := s.sim.system.books

def population (s : Show) : Population := s.books.store.population

def counter (s : Show) (counter : Counter) : String := toString (s.books.counters.get counter).toNat

def metrics (s : Show) : Metrics :=
  (Metrics.ofPopulation? s.books.counters s.population).getD {}

/-- A report of the population, checked member by member. -/
def census (s : Show) : Census × Show :=
  let (c, sim) := s.sim.call (.inspect s.books.store.members)
  let census := match sim.outcome? c with
    | some (.counted census) => census
    | _ => ⟨0, 0, 0⟩
  (census, { s with sim })

end Show

/-- Replaces the number after the last `#` of a line. -/
def hideNumber (line : String) : String :=
  match line.toList.reverse.dropWhile (· ≠ '#') with
  | [] => line
  | upToMark => String.ofList upToMark.reverse ++ "?"

def isTaskLine (line : String) : Bool := "   Task ".isPrefixOf line

/-- What was told without what hangs on the order of tasks: which task got which
resource is hidden, and neighbouring lines of tasks are sorted. -/
def steady (lines : List String) : List String :=
  let before := lines.takeWhile (!isTaskLine ·)
  let block := (lines.drop before.length).takeWhile isTaskLine
  let after := lines.drop (before.length + block.length)
  before ++ (block.map hideNumber).mergeSort (fun a b => decide (a ≤ b)) ++ after

end ResourcePool.Demo
