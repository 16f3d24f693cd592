import ResourcePool.Slot

/-! What a pool and its jobs report: every transition has one event with a
fixed name and the data it is about. -/
namespace ResourcePool

inductive Event where
  | emergencyCreation
  | emergencyAdded (slot : SlotId)
  | emergencySkipped
  | erasing (slot : SlotId)
  | cleared (generation dropped : Nat)
  | returnDiscarded (slot : Option SlotId)
  | keeperCycleStart
  | tooFew (available needed used size : Nat)
  | added (count : Nat)
  | additionSkipped (count : Nat)
  | creationFailed (count : Nat) (error : String)
  | tooMany (available remove : Nat)
  | disposing (count : Nat)
  | populationOk (available used size : Nat)
  | keeperStopped
  | keeperFailed (error : String)
  | healthCycleStart
  | snapshot (size : Nat)
  | locked (slot : SlotId)
  | unlockable (slot : SlotId)
  | checking (slot : SlotId)
  | checkFailed (slot : SlotId) (error : String)
  | evicting (slot : SlotId)
  | keeping (slot : SlotId)
  | checksCompleted (checked locked : Nat)
  | checksFinished
  | healthCycleFinished
  | healthStopped
  | healthFailed (error : String)
  | policyCycleStart (label : String)
  | policyCycleEnd (label : String)
  | policyStopped (label : String)
  | policyFailed (label error : String)
  | addressesChanged (hostname : String) (previous current : Nat)
  | resolutionFailed (hostname error : String)
deriving DecidableEq, Repr

namespace Event

def name : Event → String
  | emergencyCreation => "emergency resource creation"
  | emergencyAdded .. => "emergency resource added"
  | emergencySkipped => "emergency resource addition skipped for new population"
  | erasing .. => "erasing resource"
  | cleared .. => "clear pool"
  | returnDiscarded .. => "returned resource discarded"
  | keeperCycleStart => "resource count keeper cycle start"
  | tooFew .. => "too little resources"
  | added .. => "added resources"
  | additionSkipped .. => "addition skipped for new population"
  | creationFailed .. => "adding resources exception"
  | tooMany .. => "too many resources"
  | disposing .. => "disposing resources"
  | populationOk .. => "state OK"
  | keeperStopped => "resource count keeper stopped"
  | keeperFailed .. => "resource count keeper error"
  | healthCycleStart => "health care job cycle start"
  | snapshot .. => "locked size"
  | locked .. => "locked pointer"
  | unlockable .. => "unable to lock"
  | checking .. => "health check for pointer"
  | checkFailed .. => "health check error"
  | evicting .. => "erasing pointer"
  | keeping .. => "leaving healthy resource"
  | checksCompleted .. => "health check completed"
  | checksFinished => "health check finished"
  | healthCycleFinished => "health care job cycle finished"
  | healthStopped => "health care job stopped"
  | healthFailed .. => "health care job error"
  | policyCycleStart .. => "pool management cycle start"
  | policyCycleEnd .. => "pool management cycle end"
  | policyStopped .. => "pool management stopped"
  | policyFailed .. => "pool management error"
  | addressesChanged .. => "DNS change detected"
  | resolutionFailed .. => "DNS check error"

inductive Field where
  | count (n : Nat)
  | text (s : String)
  | slot (id : SlotId)
  /-- A slot that a one-shot lease does not have. -/
  | slotIfAny (id : Option SlotId)
deriving DecidableEq, Repr

/-- The data of an event under their names. -/
def fields : Event → List (String × Field)
  | emergencyAdded slot | erasing slot | locked slot | unlockable slot | checking slot
  | evicting slot | keeping slot => [("slot", .slot slot)]
  | cleared generation dropped => [("generation", .count generation), ("dropped", .count dropped)]
  | returnDiscarded slot => [("slot", .slotIfAny slot)]
  | tooFew available needed used size =>
      [("available", .count available), ("needed", .count needed), ("used", .count used),
        ("size", .count size)]
  | added count | additionSkipped count | disposing count => [("count", .count count)]
  | creationFailed count error => [("count", .count count), ("error", .text error)]
  | tooMany available remove => [("available", .count available), ("remove", .count remove)]
  | populationOk available used size =>
      [("available", .count available), ("used", .count used), ("size", .count size)]
  | keeperFailed error | healthFailed error => [("error", .text error)]
  | snapshot size => [("size", .count size)]
  | checkFailed slot error => [("slot", .slot slot), ("error", .text error)]
  | checksCompleted all done => [("checked", .count all), ("locked", .count done)]
  | policyCycleStart label | policyCycleEnd label | policyStopped label => [("label", .text label)]
  | policyFailed label error => [("label", .text label), ("error", .text error)]
  | addressesChanged hostname previous current =>
      [("hostname", .text hostname), ("previous", .count previous), ("current", .count current)]
  | resolutionFailed hostname error => [("hostname", .text hostname), ("error", .text error)]
  | emergencyCreation | emergencySkipped | keeperCycleStart | keeperStopped | healthCycleStart
  | checksFinished | healthCycleFinished | healthStopped => []

end Event
end ResourcePool
