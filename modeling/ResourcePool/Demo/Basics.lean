import ResourcePool.Demo.Show

/-! Leasing, clearing, leasing without waiting, and metrics. Connections are numbered
from one across the pools of the demonstration. -/
namespace ResourcePool.Demo.Basics

/-- A pool after some connections were made elsewhere. -/
def pool (id : Nat) : Show := .ofSettings id {} {}

def connection (made : Nat) (lease : Option (LeaseId × Resource)) : String :=
  match lease with
  | some (_, resource) => toString (made + resource + 1)
  | none => "?"

def simplePool : Show :=
  let s := (pool 1).tell "1. Simple Pool:"
  let (lease, s) := s.lease
  let s := s.tell ("   Got connection #" ++ connection 0 lease)
  let s := s.tell ("   State while leased: " ++ s.population.describe)
  let s := s.returnLease lease
  (s.tell ("   State after return: " ++ s.population.describe)).tell ""

def clearPool : Show :=
  let s := (pool 2).tell "2. Clear Pool:"
  let (old, s) := s.lease
  let (other, s) := s.lease
  let s := s.returnLease other
  let s := s.tell ("   Before clear: " ++ s.population.describe)
  let s := s.act .clear
  let s := s.tell ("   After clear: " ++ s.population.describe)
  let s := s.returnLease old
  (s.tell ("   After old lease returned: " ++ s.population.describe)).tell ""

/-- Leases what is available, names its connection and returns it. -/
def tryLease (made : Nat) (s : Show) : String × Show :=
  let id := s.sim.system.fresh
  let s := s.act .tryGet
  match s.sim.system.leases.get? id with
  | some lease =>
      ("Some(" ++ connection made (some (id, lease.resource)) ++ ")", s.act (.dropLease id))
  | none => ("None", s)

def tryMethods : Show :=
  let s := (pool 3).tell "3. Try Methods:"
  let (found, s) := tryLease 3 s
  let s := s.tell ("   try_get on empty pool: " ++ found)
  let (lease, s) := s.lease
  let s := s.returnLease lease
  let (found, s) := tryLease 3 s
  (s.tell ("   try_get after one return: " ++ found)).tell ""

def leaseAndReturn (s : Show) : Show :=
  let (lease, s) := s.lease
  s.returnLease lease

def percentage (share : Float) : String :=
  (Decimal.Binary64.ofBits (share * 100).toBits.toNat).fixed 1 ++ "%"

def metrics : Show :=
  let s := (pool 4).tell "4. Metrics:"
  let s := leaseAndReturn (leaseAndReturn (leaseAndReturn s))
  let s := s.act .clear
  let s := s.tell ("   Created: " ++ s.counter .created)
  let s := s.tell ("   Leased: " ++ s.counter .leased)
  let s := s.tell ("   Returned: " ++ s.counter .returned)
  let s := s.tell ("   Clears: " ++ s.counter .clears)
  (s.tell ("   Utilization: " ++ percentage s.metrics.utilization)).tell ""

def lines : List String :=
  ["=== EsoxSolutions.SharedPool - Basic Examples ===", ""] ++
    simplePool.told ++ clearPool.told ++ tryMethods.told ++ metrics.told

end ResourcePool.Demo.Basics
