import ResourcePool.Books.Basic

/-! Acquiring a resource. Available slots are tried from the newest to the oldest;
with checks on access a slot is handed out only if its resource is sound and is
erased otherwise. Where no slot is left a resource is made on the spot. -/
namespace ResourcePool

/-- Answer of a health check. -/
inductive Verdict where
  | sound
  | broken
  | failed (text : String)
  | panicked (text : String)
deriving DecidableEq, Repr

/-- How far an acquisition got without waiting. -/
inductive Acquisition where
  | leased (lease : Lease)
  /-- The leased resource is being checked. -/
  | checking (lease : Lease)
  /-- A factory call is out, begun under a generation. -/
  | creating (generation : Nat) (call : Resource)
  | failed (failure : Failure)
  | panicked (text : String)
deriving DecidableEq, Repr

namespace Books

def checksOnAccess (b : Books) : Bool := b.settings.checkOnAccess && b.settings.hasCheck

/-- A call of the factory for a caller who found nothing available. -/
def createEmergency (b : Books) : Acquisition × Books :=
  let b := b.tell .emergencyCreation
  let generation := b.store.generation
  let (call, b) := b.callFactory
  (.creating generation call, b)

/-- Tries the newest available slot. -/
def acquire (b : Books) : Acquisition × Books :=
  match b.claim with
  | (some lease, b) =>
      if b.checksOnAccess then (.checking lease, b) else (.leased lease, b.count .leased 1)
  | (none, b) => b.createEmergency

/-- Takes a slot whose resource did not pass its check off the books. -/
def erase (b : Books) (lease : Lease) : Books :=
  let b := match lease.slot with
    | some slot => b.tell (.erasing slot)
    | none => b
  ((b.count .evicted 1).forget lease).letGo lease.resource

/-- Goes on after the check of a leased resource. A check that panics unwinds the
acquisition, which hands the lease back. -/
def acquireChecked (b : Books) (lease : Lease) : Verdict → Acquisition × Books
  | .sound => (.leased lease, b.count .leased 1)
  | .broken | .failed _ => (b.erase lease).acquire
  | .panicked text => (.panicked text, b.release lease)

/-- Puts an emergency creation on the books: it is pooled only if no clearing
came between the begin of its call and now. -/
def admitEmergency (b : Books) (resource : Resource) (generation : Nat) : Lease × Books :=
  let b := ((b.count .created 1).count .emergencyCreated 1).count .leased 1
  match b.store.admitLeased resource generation with
  | (some slot, store) =>
      (⟨resource, some slot, generation⟩,
        ({ b with store }.take resource).tell (.emergencyAdded slot))
  | (none, _) => (⟨resource, none, generation⟩, b.tell .emergencySkipped)

/-- Goes on after the factory call of an emergency creation. -/
def acquireSupplied (b : Books) (generation : Nat) (call : Resource) (supply : Supply) :
    Acquisition × Books :=
  let b := b.endCall call supply
  match supply with
  | .made =>
      let (lease, b) := b.admitEmergency call generation
      (.leased lease, b)
  | .failed text => (.failed (.factory text), b.count .factoryFailures 1)
  | .panicked text => (.panicked text, b)

/-- Gives up an acquisition that is waiting: a lease under check goes back, a
factory call is abandoned. -/
def abandon (b : Books) : Acquisition → Books
  | .checking lease => b.release lease
  | _ => b

/-- Leases what is available without a check or a creation. -/
def tryAcquire (b : Books) : Option Lease × Books :=
  match b.claim with
  | (some lease, b) => (some lease, b.count .leased 1)
  | (none, b) => (none, b)

end Books
end ResourcePool
