import ResourcePool.Proofs.Custody.Exclusive
import ResourcePool.Proofs.System.Housekeeping
import ResourcePool.Proofs.Upkeep.Job

/-! What one action can do to a pool and to what refers to it. -/
namespace ResourcePool.System
open Books (Changes)
open Function (update update_self update_of_ne update_comm update_idem update_eq_self)
open Relation (ReflTransGen)

variable {s t next : System} {a : Action} {c : CallId} {call : Call} {books : Books}

/-- The operations that an action may do to the store other than for a lease. -/
def Warrants (s : System) : Action → Store.Operation Resource → Prop
  | .clear, operation => operation = .clear
  | .supply c _, operation => ∃ generation resource,
      s.calls.get? c = some (.getting (.creating generation resource)) ∧
        operation = .admitLeased resource generation
  | .signal id signal, operation =>
      ∃ j, s.jobs.get? id = some j ∧ j.Warrants signal (.operate operation)
  | _, _ => False

/-- Leases are exclusive, numbers are used once, nobody waits for a pool that callers have
given up, closed books are done with, and health checks are of slots that were opened. -/
structure Orderly (s : System) : Prop where
  custody : s.custody.Exclusive
  leases : ∀ id l, s.leases.get? id = some l → id < s.fresh
  calls : ∀ c call, s.calls.get? c = some call → c < s.fresh
  idle : s.present = false → ∀ c call, s.calls.get? c = some call → call.isWaiting = false
  absent : s.closed = true → s.present = false
  empty : s.closed = true → ∀ id, s.books.store.slots.get? id = none
  ended : s.closed = true → ∀ id j, s.jobs.get? id = some j → j.isOver = true
  checks : ∀ id j round, s.jobs.get? id = some j → j.stage = .checking round →
    j.kind = .health ∧ round.slot.number < s.books.store.nextId

namespace Orderly

theorem present (orderly : s.Orderly) (found : s.calls.get? c = some call)
    (waiting : call.isWaiting = true) : s.present = true := by
  cases present : s.present with
  | true => rfl
  | false => cases waiting.symm.trans (orderly.idle present c call found)

theorem freshLease (orderly : s.Orderly) {id : LeaseId} (unused : s.fresh ≤ id) :
    s.leaseOf (.lease id) = none := by
  cases found : s.leases.get? id with
  | none => exact found
  | some l =>
      exact False.elim (Nat.lt_irrefl _ (Nat.lt_of_lt_of_le (orderly.leases _ l found) unused))

theorem freshCall (orderly : s.Orderly) : s.leaseOf (.call s.fresh) = none := by
  cases found : s.calls.get? s.fresh with
  | none => exact congrArg (Option.bind · Call.lease?) found
  | some call => exact False.elim (Nat.lt_irrefl _ (orderly.calls _ call found))

end Orderly

/-- What may be different after an action, leases and the store apart. -/
structure Frame (s : System) (a : Action) (next : System) : Prop where
  changes : Changes (fun _ => True) s.books next.books
  /-- No factory call begins in an action that may clear. -/
  begins : next.books.calls = s.books.calls ∨ ¬ s.Warrants a .clear
  fresh : s.fresh ≤ next.fresh
  closed : next.closed = s.closed
  present : next.present = s.present ∨ next.present = false ∧
    ∀ c call, next.calls.get? c = some call → call.isWaiting = false
  leases : ∀ id l, next.leases.get? id = some l →
    (∃ l', s.leases.get? id = some l') ∨ id < next.fresh
  calls : ∀ c call, next.calls.get? c = some call → s.calls.get? c = some call ∨
    c < next.fresh ∧ (call.isWaiting = true → s.present = true) ∧
      ∀ generation resource, call = .getting (.creating generation resource) →
        generation = next.books.store.generation ∧ resource = s.books.calls ∧
          resource < next.books.calls
  jobs : ∀ id j, next.jobs.get? id = some j →
    (∃ before, s.jobs.get? id = some before ∧ before.kind = j.kind ∧ before.stage = j.stage) ∨
    j.stage = .spawned ∧ s.present = true ∨
    ∃ before signal, a = .signal id signal ∧ s.jobs.get? id = some before ∧
      before.isOver = false ∧ before.kind = j.kind ∧ before.Proceeds s.books next.books j.stage

/-- What an action does: leases and the store change step by step, within the frame. -/
structure Effect (s : System) (a : Action) (next : System) : Prop extends Frame s a next where
  custody : ReflTransGen (Custody.Step (s.Warrants a)) s.custody next.custody

/-! ## Actions that leave leases and the store alone -/

theorem Housekeeping.custody (kept : Housekeeping s next) : next.custody = s.custody := by
  have leaseOf : next.leaseOf = s.leaseOf := by
    funext h
    cases h with
    | lease id => simp only [System.leaseOf, kept.leases]
    | call c => simp only [System.leaseOf, kept.calls]
  simp only [System.custody, leaseOf, kept.books.store_eq]

theorem Effect.quiet (kept : Housekeeping s next) : Effect s a next where
  custody := kept.custody ▸ .refl
  changes := kept.books.mono fun _ _ => trivial
  begins := Or.inl (kept.books.calls_eq id)
  fresh := kept.fresh
  closed := kept.closed
  present := Or.inl kept.present
  leases := fun _ l found => Or.inl ⟨l, kept.leases ▸ found⟩
  calls := fun _ _ found => Or.inl (kept.calls ▸ found)
  jobs := fun id j found => (kept.jobs id j found).imp_right Or.inl

theorem Frame.setCall (frame : Frame s a t) (plain : call.isPlain = true) (range : c < t.fresh)
    (same : t.present = s.present) (present : s.present = true) :
    Frame s a (t.setCall c call) := by
  refine { frame with present := Or.inl same, calls := ?_ }
  intro c' call' found
  simp only [System.setCall, Table.get?_set] at found
  split at found
  · rename_i same
    cases found
    refine Or.inr ⟨same ▸ range, fun _ => present, ?_⟩
    rintro generation resource rfl
    contradiction
  · exact frame.calls c' call' found

/-- A call is put on record that has nothing to do with leases. -/
theorem Effect.plainCall (kept : Housekeeping s t) (plain : call.isPlain = true)
    (free : s.leaseOf (.call c) = none) (range : c < t.fresh) (present : s.present = true) :
    Effect s a (t.setCall c call) := by
  have quiet : Effect s a t := .quiet kept
  refine ⟨quiet.setCall plain range kept.present present, ?_⟩
  have same : s.leaseOf = t.leaseOf := congrArg Custody.leaseOf kept.custody.symm
  have lease : call.lease? = t.leaseOf (.call c) := by
    rw [← same, free]
    cases call with
    | getting acquisition => contradiction
    | _ => rfl
  have custody : (t.setCall c call).custody = t.custody := by
    simp only [System.custody, leaseOf_setCall, lease, update_eq_self]
    rfl
  rw [custody]
  exact quiet.custody

/-! ## Acquisitions on record -/

/-- Where the lease of an acquisition goes: to the caller under a new number, or it stays
with the call. -/
theorem leaseOf_recordGet (s : System) (free : s.leaseOf (.lease s.fresh) = none) (c : CallId)
    (acquisition : Acquisition) :
    ∃ h, update s.leaseOf (.call c) none h = none ∧ (s.recordGet c acquisition).leaseOf =
      update (update s.leaseOf (.call c) none) h acquisition.lease? := by
  have idle : ∀ outcome, (s.finishCall c outcome).leaseOf = update s.leaseOf (.call c) none :=
    fun outcome => s.leaseOf_setCall c (.finished outcome)
  cases acquisition with
  | leased lease =>
      refine ⟨.lease s.fresh, (update_of_ne (by simp) ..).trans free, ?_⟩
      have recorded := (s.addLease lease).2.leaseOf_setCall c (.finished (.leased s.fresh))
      rw [leaseOf_addLease] at recorded
      exact recorded.trans (update_comm (by simp) ..)
  | checking | creating =>
      exact ⟨.call c, update_self .., (leaseOf_setCall ..).trans (update_idem ..).symm⟩
  | failed | panicked => exact ⟨.call c, update_self .., (idle _).trans (update_idem ..).symm⟩

theorem calls_recordGet {acquisition : Acquisition} {c' : CallId}
    (found : (s.recordGet c acquisition).calls.get? c' = some call) :
    s.calls.get? c' = some call ∨ c' = c ∧
      ∀ generation resource, call = .getting (.creating generation resource) →
        acquisition = .creating generation resource := by
  cases acquisition <;>
    simp only [recordGet, addLease, newId, finishCall, setCall, Table.get?_set] at found <;>
    split at found <;> first
      | exact Or.inl found
      | rename_i same
        cases found
        exact Or.inr ⟨same.symm, by simp⟩

section
variable (s : System) (c : CallId) (acquisition : Acquisition)

theorem books_recordGet : (s.recordGet c acquisition).books = s.books := by
  cases acquisition <;> rfl

theorem closed_recordGet : (s.recordGet c acquisition).closed = s.closed := by
  cases acquisition <;> rfl

theorem present_recordGet : (s.recordGet c acquisition).present = s.present := by
  cases acquisition <;> rfl

theorem jobs_recordGet : (s.recordGet c acquisition).jobs = s.jobs := by
  cases acquisition <;> rfl

theorem fresh_le_recordGet : s.fresh ≤ (s.recordGet c acquisition).fresh := by
  cases acquisition with
  | leased lease => exact Nat.le_succ _
  | _ => exact Nat.le_refl _

end

/-- An acquisition goes on record with what it did to the books. -/
theorem Effect.recorded {fresh : Nat} {acquisition : Acquisition} (orderly : s.Orderly)
    (grows : s.fresh ≤ fresh) (range : c < fresh) (present : s.present = true)
    (changes : Changes (fun _ => True) s.books books) (quiet : ¬ s.Warrants a .clear)
    (creating : ∀ generation resource, acquisition = .creating generation resource →
      generation = books.store.generation ∧ resource = s.books.calls ∧ resource < books.calls)
    (path : ∀ h, update s.leaseOf (.call c) none h = none →
      ReflTransGen (Custody.Step (s.Warrants a)) s.custody
        ⟨books.store, update (update s.leaseOf (.call c) none) h acquisition.lease?⟩) :
    Effect s a (({ s with books, fresh } : System).recordGet c acquisition) := by
  obtain ⟨h, free, leaseOf⟩ := leaseOf_recordGet { s with books, fresh }
    (orderly.freshLease grows) c acquisition
  let whole : System := { s with books, fresh }
  have grown : fresh ≤ (whole.recordGet c acquisition).fresh := whole.fresh_le_recordGet c _
  refine ⟨⟨?_, Or.inr quiet, Nat.le_trans grows grown, whole.closed_recordGet c _,
    Or.inl (whole.present_recordGet c _), ?_, ?_, ?_⟩, ?_⟩
  · rw [books_recordGet]
    exact changes
  · intro id l found
    cases acquisition with
    | leased lease =>
        simp only [recordGet, addLease, newId, finishCall, setCall, Table.get?_set] at found ⊢
        split at found
        · rename_i same
          exact Or.inr (same ▸ Nat.lt_succ_self fresh)
        · exact Or.inl ⟨l, found⟩
    | _ => exact Or.inl ⟨l, found⟩
  · intro c' call found
    rcases calls_recordGet found with before | ⟨rfl, created⟩
    · exact Or.inl before
    · refine Or.inr ⟨Nat.lt_of_lt_of_le range grown, fun _ => present, ?_⟩
      intro generation resource made
      rw [books_recordGet]
      exact creating generation resource (created generation resource made)
  · intro id j found
    rw [jobs_recordGet] at found
    exact Or.inl ⟨j, found, rfl, rfl⟩
  · simp only [System.custody, leaseOf, books_recordGet]
    exact path h free

/-! ## Actions on the books and leases alone -/

theorem Frame.accounted {leases : Table LeaseId Lease} {held : Table HandleId Resource}
    {fresh : Nat} (changes : Changes (fun _ => True) s.books books)
    (begins : books.calls = s.books.calls ∨ ¬ s.Warrants a .clear) (grows : s.fresh ≤ fresh)
    (known : ∀ id l, leases.get? id = some l → (∃ l', s.leases.get? id = some l') ∨ id < fresh) :
    Frame s a { s with books, leases, held, fresh } where
  changes := changes
  begins := begins
  fresh := grows
  closed := rfl
  present := Or.inl rfl
  leases := known
  calls := fun _ _ found => Or.inl found
  jobs := fun _ j found => Or.inl ⟨j, found, rfl, rfl⟩

end ResourcePool.System
