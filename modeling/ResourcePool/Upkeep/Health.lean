import ResourcePool.Books.Acquire

/-! The health care job. A cycle goes through the slots that are available when it
starts; each that is still available when its turn comes is checked, and those
found broken are taken off the books, also if they were leased meanwhile. -/
namespace ResourcePool.Health

/-- A cycle that waits for the check of a slot. -/
structure Round where
  /-- Slots in the cycle. -/
  checked : Nat
  /-- Checks begun so far. -/
  locked : Nat
  slot : SlotId
  resource : Resource
  rest : List SlotId
deriving DecidableEq, Repr

/-- Goes to the next slot that is still available; without one the cycle is over. -/
def seek (checked locked : Nat) : List SlotId → Work (Option Round)
  | [] => do
      Work.log (.checksCompleted checked locked)
      Work.log .checksFinished
      Work.log .healthCycleFinished
      return none
  | slot :: rest => do
      match (← Work.books).store.lockAvailable slot with
      | none =>
          Work.log (.unlockable slot)
          seek checked locked rest
      | some resource =>
          Work.log (.locked slot)
          Work.log (.checking slot)
          Work.apply (·.take resource)
          return some ⟨checked, locked + 1, slot, resource, rest⟩

def survey : Work (Option Round) := do
  Work.log .healthCycleStart
  let slots := (← Work.books).store.available
  Work.log (.snapshot slots.length)
  seek slots.length 0 slots

/-- Takes a broken slot off the books, also if the sink refuses to hear of it. -/
def evict (slot : SlotId) : Work Unit := do
  let refusal ← modifyGet fun b => b.offer (.evicting slot)
  if ← modifyGet fun b => b.remove slot then
    Work.apply (·.count .evicted 1)
  match refusal with
  | some refusal => throw (.logging refusal)
  | none => pure ()

/-- Draws the consequence of a check; there is none of a panic. -/
def conclude (slot : SlotId) : Verdict → Work Unit
  | .sound => Work.log (.keeping slot)
  | .broken => evict slot
  | .failed text => do
      Work.log (.checkFailed slot text)
      evict slot
  | .panicked _ => pure ()

/-- Goes on after a check. -/
def judge (round : Round) (verdict : Verdict) : Work (Option Round) := do
  Work.apply (·.letGo round.resource)
  conclude round.slot verdict
  seek round.checked round.locked round.rest

end ResourcePool.Health
