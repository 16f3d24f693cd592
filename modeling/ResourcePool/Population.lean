import ResourcePool.Text.Record

/-! Point-in-time counts of a pool's members. -/
namespace ResourcePool

structure Population where
  size : Nat
  available : Nat
deriving DecidableEq, Repr, Inhabited

namespace Population

/-- Members leased out. -/
def used (p : Population) : Nat := p.size - p.available

/-- Members leased out, or nothing where more are available than there are. -/
def used? (p : Population) : Option Nat :=
  if p.available ≤ p.size then some p.used else none

def json (p : Population) : String :=
  Text.numberObject [("size", p.size), ("available", p.available)]

def describe (p : Population) : String :=
  Text.record "PoolState" [("size", toString p.size), ("available", toString p.available)]

end Population

/-- A population together with the number of members that failed their check. -/
structure Census where
  size : Nat
  available : Nat
  unhealthy : Nat
deriving DecidableEq, Repr, Inhabited

namespace Census

def json (c : Census) : String :=
  Text.numberObject [("size", c.size), ("available", c.available), ("unhealthy", c.unhealthy)]

def describe (c : Census) : String :=
  Text.record "PoolFullState"
    [("size", toString c.size), ("available", toString c.available),
      ("unhealthy", toString c.unhealthy)]

end Census
end ResourcePool
