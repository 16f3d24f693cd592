import ResourcePool.Demo.Show

/-! Background jobs at work: the keeper follows its bounds, a health cycle evicts a
broken connection, and tasks lease concurrently. Connecting takes a while. -/
namespace ResourcePool.Demo.Jobs

def connecting : Simulation.Script := { factory := { default := { delay := 10 } } }

def resourceCountKeeper : Show :=
  let settings : Settings :=
    { tuning := { minSpare := 3, maxSpare := 5, keeperPause := .ofMillis 100 } }
  let s := (Show.ofSettings 1 settings connecting).tell "1. Resource Count Keeper:"
  let s := (s.call (.start .keeper)).sleep 300
  let s := s.tell ("   Warmed up: " ++ s.population.describe)
  let s := (s.act (.tune { s.books.tuning with minSpare := 1, maxSpare := 1 })).sleep 300
  let s := s.tell ("   After shrinking bounds: " ++ s.population.describe)
  let s := s.call (.stop .keeper)
  (s.tell ("   Keeper running: " ++ toString (s.sim.system.isRunning .keeper))).tell ""

/-- Makes the checks of a resource find it broken. -/
def damage (s : Show) (lease : Option (LeaseId × Resource)) : Show :=
  match lease with
  | some (_, resource) =>
      let checking := .byResource {} ⟨[(resource, { result := .bad })]⟩
      { s with sim := { s.sim with script := { s.sim.script with checking } } }
  | none => s

def healthCare : Show :=
  let settings : Settings :=
    { tuning := { healthPause := .ofMillis 100 }, hasCheck := true }
  let s := (Show.ofSettings 2 settings connecting).tell "2. Health Care Job:"
  let (first, s) := s.lease
  let (second, s) := s.lease
  let (third, s) := s.lease
  let s := ((damage s second).returnLease first).returnLease second |>.returnLease third
  let (census, s) := s.census
  let s := s.tell ("   Before health care: " ++ census.describe)
  let s := ((s.call (.start .health)).sleep 200).call (.stop .health)
  let (census, s) := s.census
  let s := s.tell ("   After health care: " ++ census.describe)
  (s.tell ("   Evicted: " ++ s.counter .evicted)).tell ""

/-- Tells of the lease that a task got. -/
def tellTask (s : Show) (task : Nat) (c : CallId) : Show :=
  let start := "   Task " ++ toString task
  match s.sim.outcome? c with
  | some (.leased id) =>
      match s.sim.system.leases.get? id with
      | some lease => s.tell (start ++ " got connection #" ++ toString (lease.resource + 1))
      | none => s
  | some (.failed failure) => s.tell (start ++ " failed: " ++ failure.message)
  | _ => s

def concurrentAccess : Show :=
  let s := (Show.ofSettings 3 { tuning := { minSpare := 2 } } connecting).tell
    "3. Concurrent Access:"
  let s := s.act (.start .keeper)
  let sim := (List.range 10).foldl (fun sim _ => sim.queue .get) { s.sim with begun := [] }
  let sim := sim.drain
  let tasks := sim.begun.reverse
  let s := { s with sim := sim.await tasks }
  let s := tasks.zipIdx.foldl (fun s (c, task) => tellTask s task c) s
  let s := s.sleep 50
  let s := s.sim.system.leases.keys.foldl (fun s id => s.act (.dropLease id)) s
  let s := s.call (.stop .keeper)
  s.tell ("   Final state: " ++ s.population.describe)

def lines : List String :=
  ["=== EsoxSolutions.SharedPool - Background Jobs ===", ""] ++
    resourceCountKeeper.told ++ healthCare.told ++ concurrentAccess.told

end ResourcePool.Demo.Jobs
