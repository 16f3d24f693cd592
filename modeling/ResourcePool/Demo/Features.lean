import ResourcePool.Demo.Show
import ResourcePool.Metrics.Exposition

/-! Management policies, a log sink of one's own, and metrics in the text exposition
format. -/
namespace ResourcePool.Demo.Features

def host : String := "db.internal"

/-- A resolver that always answers with one address. -/
def resolvingTo (last : Nat) : Simulation.Ticking :=
  .resolutions { default := { resolution := .ok [.ofOctets [10, 0, 0, last]] } }

def managed (policy : Policy) (pause : Nat) : Settings :=
  { tuning := { policyPause := .ofMillis pause }, policy := some policy, policyFatal := false }

def failover (s : Show) : Show :=
  { s with sim := { s.sim with script := { s.sim.script with ticking := resolvingTo 2 } } }

def addressWatch : Show :=
  let s := (Show.ofSettings 1 (managed (.addresses host) 100) { ticking := resolvingTo 1 }).tell
    "1. DNS Aware Pool Management:"
  let s := (s.call (.start .management)).sleep 150
  let (lease, s) := s.lease
  let s := s.tell ("   Leased connection to " ++ host)
  let s := s.returnLease lease
  let s := s.tell ("   Before failover: " ++ s.population.describe)
  let s := (failover s).sleep 250
  let s := s.tell ("   After failover: " ++ s.population.describe)
  ((s.tell ("   Clears: " ++ s.counter .clears)).tell "").call (.stop .management)

/-- Clears the pool once enough leases were seen in use. -/
def customPolicy : Show :=
  let s := (Show.ofSettings 2 (managed (.custom "recycle-after") 50) { ticking := .tally 0 2 }).tell
    "2. Custom Pool Management Policy:"
  let s := s.call (.start .management)
  let (first, s) := s.lease
  let (second, s) := s.lease
  let s := ((s.sleep 120).returnLease first).returnLease second
  let s := s.tell ("   State: " ++ s.population.describe)
  let s := (s.tell ("   Discarded returns: " ++ s.counter .discarded)).tell ""
  s.call (.stop .management)

/-- Names of the events in a journal, the oldest first. -/
def eventNames (journal : Journal) : List String :=
  journal.reverse.filterMap fun entry =>
    match entry.report with
    | .event event _ => some event.name
    | _ => none

def customLogger : Show :=
  let s := (Show.ofSettings 3 { logging := .sink } {}).tell "3. Custom Logger:"
  let (lease, s) := s.lease
  let s := (s.returnLease lease).act .clear
  let tell (s : Show) (name : String) : Show :=
    s.tell ("   [pool " ++ toString s.books.id ++ "] " ++ name)
  ((eventNames s.books.journal).foldl tell s).tell ""

def exposition : Show :=
  let s := (Show.ofSettings 4 {} {}).tell "4. Prometheus Export:"
  let (lease, s) := s.lease
  let s := s.returnLease lease
  let lines := Exposition.lines s.metrics "orders_db" [("service", "orders")]
  let samples := lines.filter fun line => !"#".isPrefixOf line
  (samples.foldl (fun s line => s.tell ("   " ++ line)) s).tell ""

def lines : List String :=
  ["=== EsoxSolutions.SharedPool - Advanced Features ===", ""] ++
    addressWatch.told ++ customPolicy.told ++ customLogger.told ++ exposition.told

end ResourcePool.Demo.Features
