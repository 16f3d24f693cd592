/-! Slots of a pool are known by the number they were opened with. -/
namespace ResourcePool

structure SlotId where
  number : Nat
deriving DecidableEq, Repr, Inhabited

namespace SlotId

def render (id : SlotId) : String := s!"#{id.number}"

/-- Structural text, as it appears inside the text of a larger value. -/
def describe (id : SlotId) : String := s!"SlotId({id.number})"

def describeOption : Option SlotId → String
  | none => "None"
  | some id => s!"Some({id.describe})"

end SlotId
end ResourcePool
