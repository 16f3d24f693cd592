import ResourcePool.Slot
import ResourcePool.Text.Record

/-! A resource handed out of a pool. A lease without a slot is one-shot: its
resource never enters the pool. -/
namespace ResourcePool

/-- A resource is known by the number of the factory call that made it. -/
abbrev Resource := Nat

structure Lease where
  resource : Resource
  slot : Option SlotId
  generation : Nat
deriving DecidableEq, Repr

namespace Lease

def isPooled (l : Lease) : Bool := l.slot.isSome

def describe (l : Lease) : String :=
  Text.record "Lease" [("resource", s!"Some({l.resource})"),
    ("slot", SlotId.describeOption l.slot), ("generation", toString l.generation)]

end Lease
end ResourcePool
