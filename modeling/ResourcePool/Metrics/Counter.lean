/-! Lifetime counters of a pool. They count modulo `2 ^ 64`; the number of
unhealthy members alone is a last reading. -/
namespace ResourcePool

inductive Counter where
  | created
  | emergencyCreated
  | leased
  | returned
  | discarded
  | evicted
  | disposed
  | factoryFailures
  | clears
  | unhealthy
deriving DecidableEq, Repr

namespace Counter

def all : List Counter :=
  [created, emergencyCreated, leased, returned, discarded, evicted, disposed, factoryFailures,
    clears, unhealthy]

def name : Counter → String
  | created => "total_created"
  | emergencyCreated => "emergency_created"
  | leased => "total_leased"
  | returned => "total_returned"
  | discarded => "discarded_returns"
  | evicted => "evicted"
  | disposed => "disposed"
  | factoryFailures => "factory_failures"
  | clears => "clears"
  | unhealthy => "unhealthy"

def ofName? (name : String) : Option Counter := all.find? (·.name = name)

end Counter

structure Counters where
  created : UInt64 := 0
  emergencyCreated : UInt64 := 0
  leased : UInt64 := 0
  returned : UInt64 := 0
  discarded : UInt64 := 0
  evicted : UInt64 := 0
  disposed : UInt64 := 0
  factoryFailures : UInt64 := 0
  clears : UInt64 := 0
  unhealthy : UInt64 := 0
deriving DecidableEq, Repr, Inhabited

namespace Counters

def get (cs : Counters) : Counter → UInt64
  | .created => cs.created
  | .emergencyCreated => cs.emergencyCreated
  | .leased => cs.leased
  | .returned => cs.returned
  | .discarded => cs.discarded
  | .evicted => cs.evicted
  | .disposed => cs.disposed
  | .factoryFailures => cs.factoryFailures
  | .clears => cs.clears
  | .unhealthy => cs.unhealthy

def set (cs : Counters) (n : UInt64) : Counter → Counters
  | .created => { cs with created := n }
  | .emergencyCreated => { cs with emergencyCreated := n }
  | .leased => { cs with leased := n }
  | .returned => { cs with returned := n }
  | .discarded => { cs with discarded := n }
  | .evicted => { cs with evicted := n }
  | .disposed => { cs with disposed := n }
  | .factoryFailures => { cs with factoryFailures := n }
  | .clears => { cs with clears := n }
  | .unhealthy => { cs with unhealthy := n }

/-- Adds to a counter; the number of unhealthy members is replaced instead. -/
def record (cs : Counters) (counter : Counter) (amount : Nat) : Counters :=
  if counter = .unhealthy then cs.set (.ofNat amount) counter
  else cs.set (cs.get counter + .ofNat amount) counter

@[simp] theorem get_set (cs : Counters) (n : UInt64) (counter other : Counter) :
    (cs.set n counter).get other = if counter = other then n else cs.get other := by
  cases counter <;> cases other <;> rfl

end Counters
end ResourcePool
