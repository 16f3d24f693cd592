import Mathlib.Logic.Equiv.Basic
import Mathlib.Logic.Relation
import ResourcePool.Proofs.Books.Acquire
import ResourcePool.System.Basic

/-! Who has which lease, and how leases and the store change together. A lease is in the
hands of a caller, or of a call that waits for the check of its resource. -/
namespace ResourcePool

inductive Holder where
  | lease (id : LeaseId)
  | call (c : CallId)
deriving DecidableEq

/-- The lease that a call keeps while its resource is being checked. -/
def Call.lease? : Call → Option Lease
  | .getting (.checking lease) => some lease
  | _ => none

def System.leaseOf (s : System) : Holder → Option Lease
  | .lease id => s.leases.get? id
  | .call c => (s.calls.get? c).bind Call.lease?

namespace System
open Function (update update_self update_of_ne)

theorem leaseOf_setCall (s : System) (c : CallId) (call : Call) :
    (s.setCall c call).leaseOf = update s.leaseOf (.call c) call.lease? := by
  funext h
  cases h with
  | lease id => exact (update_of_ne (by simp) ..).symm
  | call other =>
      by_cases same : other = c
      · simp [leaseOf, setCall, Table.get?_set, same]
      · simp [leaseOf, setCall, Table.get?_set, same, Ne.symm same]

theorem leaseOf_addLease (s : System) (lease : Lease) :
    (s.addLease lease).2.leaseOf = update s.leaseOf (.lease s.fresh) (some lease) := by
  funext h
  cases h with
  | call c => exact (update_of_ne (by simp) ..).symm
  | lease id =>
      by_cases same : id = s.fresh
      · simp [leaseOf, addLease, newId, Table.get?_set, same]
      · simp [leaseOf, addLease, newId, Table.get?_set, same, Ne.symm same]

theorem leaseOf_eraseLease (s : System) (id : LeaseId) :
    ({ s with leases := s.leases.erase id } : System).leaseOf =
      update s.leaseOf (.lease id) none := by
  funext h
  cases h with
  | call c => exact (update_of_ne (by simp) ..).symm
  | lease other =>
      by_cases same : other = id
      · simp [leaseOf, Table.get?_erase, same]
      · simp [leaseOf, Table.get?_erase, same, Ne.symm same]

end System

/-- A store and the leases that are out. -/
structure Custody where
  store : Store Resource
  leaseOf : Holder → Option Lease

def System.custody (s : System) : Custody := ⟨s.books.store, s.leaseOf⟩

namespace Custody
open Function (update update_self update_of_ne)

/-- Whoever has a lease after a change at one holder is this holder, or had it before. -/
theorem holds_cases {leaseOf : Holder → Option Lease} {h h' : Holder} {given : Option Lease}
    {l : Lease} (holds : update leaseOf h given h' = some l) :
    (h' = h ∧ given = some l) ∨ (h' ≠ h ∧ leaseOf h' = some l) := by
  by_cases same : h' = h
  · subst same
    exact Or.inl ⟨rfl, update_self h' given leaseOf ▸ holds⟩
  · exact Or.inr ⟨same, update_of_ne same given leaseOf ▸ holds⟩

/-- One operation of the store, together with the lease that begins or ends by it. Upkeep
and what enters the population need a permit. -/
inductive Step (allowed : Store.Operation Resource → Prop) : Custody → Custody → Prop
  | upkeep {c : Custody} {operation : Store.Operation Resource} : operation.isUpkeep →
      allowed operation → Step allowed c ⟨(c.store.perform operation).2, c.leaseOf⟩
  | claim {c : Custody} {h : Holder} : c.leaseOf h = none →
      Step allowed c ⟨c.store.claim.2, update c.leaseOf h (c.store.claim.1.map Claim.lease)⟩
  | enter {c : Custody} {h : Holder} {resource : Resource} {generation : Nat} :
      c.leaseOf h = none → allowed (.admitLeased resource generation) →
      Step allowed c ⟨(c.store.admitLeased resource generation).2,
        update c.leaseOf h
          (some ⟨resource, (c.store.admitLeased resource generation).1, generation⟩)⟩
  /-- Leases change hands. -/
  | pass {c : Custody} (exchange : Equiv.Perm Holder) :
      Step allowed c ⟨c.store, c.leaseOf ∘ exchange⟩
  | giveBack {c : Custody} {h : Holder} {lease : Lease} : c.leaseOf h = some lease →
      Step allowed c
        ⟨lease.slot.elim c.store fun slot => (c.store.release slot lease.generation).2,
          update c.leaseOf h none⟩
  | forget {c : Custody} {h : Holder} {lease : Lease} : c.leaseOf h = some lease →
      Step allowed c
        ⟨lease.slot.elim c.store fun slot => (c.store.remove slot).2, update c.leaseOf h none⟩

/-- A history of upkeep leaves the leases where they are. -/
theorem upkeep_steps {allowed : Store.Operation Resource → Prop}
    {history : List (Store.Operation Resource)} (c : Custody)
    (permitted : ∀ operation ∈ history, operation.isUpkeep = true ∧ allowed operation) :
    Relation.ReflTransGen (Step allowed) c ⟨c.store.after history, c.leaseOf⟩ := by
  induction history generalizing c with
  | nil => exact .refl
  | cons operation rest ih =>
      obtain ⟨quiet, permit⟩ := permitted operation List.mem_cons_self
      exact .head (.upkeep quiet permit)
        (ih _ fun other member => permitted other (List.mem_cons_of_mem _ member))

/-- The store lets go of everything it has. -/
def close (c : Custody) : Custody :=
  { c with store := { c.store with slots := {}, available := [] } }

end Custody
end ResourcePool
