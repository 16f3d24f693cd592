import ResourcePool.Decimal.Binary64
import ResourcePool.Metrics.Counter
import ResourcePool.Population

/-! A reading of a pool's counters together with its current population. -/
namespace ResourcePool

structure Metrics where
  counters : Counters := {}
  size : Nat := 0
  available : Nat := 0
  /-- Share of the population that is leased out. -/
  utilization : Float := 0
deriving Inhabited

namespace Metrics

def utilizationOf (used size : Nat) : Float :=
  if 0 < size then (UInt64.ofNat used).toFloat / (UInt64.ofNat size).toFloat else 0

/-- There is no reading of a population with more available than members, unless
it is empty. -/
def ofPopulation? (counters : Counters) (p : Population) : Option Metrics :=
  if p.size = 0 then some ⟨counters, p.size, p.available, 0⟩
  else p.used?.map fun used => ⟨counters, p.size, p.available, utilizationOf used p.size⟩

def utilizationBits (m : Metrics) : Nat := m.utilization.toBits.toNat

def utilizationText (m : Metrics) : String :=
  (Decimal.Binary64.ofBits m.utilizationBits).fixed 2

/-- Each datum as text under its name. -/
def entries (m : Metrics) : List (String × String) :=
  Counter.all.map (fun counter => (counter.name, toString (m.counters.get counter).toNat)) ++
    [("size", toString m.size), ("available", toString m.available),
      ("utilization", m.utilizationText)]

end Metrics
end ResourcePool
