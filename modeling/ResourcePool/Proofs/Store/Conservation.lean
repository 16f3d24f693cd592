import Mathlib.Tactic.Abel
import ResourcePool.Proofs.Holdings.Store

/-! A store neither makes nor loses resources. All that it ever took in it still has, or gave
back by one of its exits, or left to the leases that were out when it was cleared; and an
operation that it refuses changes nothing. -/
namespace ResourcePool.Store
variable {α : Type} {s : Store α}

/-- What a store takes in by an operation. -/
def admitted (s : Store α) (operation : Operation α) : Multiset α :=
  match operation, (s.perform operation).1 with
  | .admitLeased resource _, .slot (some _) => {resource}
  | .admitAvailable resources _, .admitted _ => resources
  | _, _ => 0

/-- The ways in which a resource leaves a store. -/
inductive Exit where
  | removed
  | disposed
  | dropped
  /-- Left to its lease, which was out when the store was cleared. -/
  | stranded

/-- The resources of the slots that are leased out. -/
def leased (s : Store α) : Multiset α :=
  (s.slots.values.filter (·.status = .leased)).map Slot.resource

/-- What leaves a store by an operation, as its answer tells; what a clearing strands is not
among its answer. -/
def leaving (s : Store α) (exit : Exit) (operation : Operation α) : Multiset α :=
  match exit, operation, (s.perform operation).1 with
  | .removed, .remove _, .resource (some resource) => {resource}
  | .disposed, .dispose _, .disposed resources => resources
  | .dropped, .clear, .cleared _ resources => resources
  | .stranded, .clear, _ => s.leased
  | _, _, _ => 0

/-- What an operation moves, summed over a history. -/
def movedAlong (moved : Store α → Operation α → Multiset α) (s : Store α) :
    List (Operation α) → Multiset α
  | [] => 0
  | operation :: rest => moved s operation + movedAlong moved (s.perform operation).2 rest

/-- What leaves by any exit. -/
def allLeaving (leaving : Exit → Multiset α) : Multiset α :=
  leaving .removed + leaving .disposed + leaving .dropped + leaving .stranded

/-- The operations that a store refuses, each with the answer to it. -/
inductive Refuses (s : Store α) : Operation α → Answer α → Prop
  | resourceOfAnother {resource : α} {generation : Nat} (stale : generation ≠ s.generation) :
      Refuses s (.admitLeased resource generation) (.slot none)
  | batchOfAnother {resources : List α} {generation : Nat} (stale : generation ≠ s.generation) :
      Refuses s (.admitAvailable resources generation) (.rejected resources)
  | emptyQueue (empty : s.available = []) : Refuses s .claim (.claimed none)
  | returnToAnother {id : SlotId} {generation : Nat} (stale : generation ≠ s.generation) :
      Refuses s (.release id generation) (.released .discarded)
  | returnOfUnknown {id : SlotId} {generation : Nat} (unknown : s.slots.get? id = none) :
      Refuses s (.release id generation) (.released .discarded)
  | returnOfUnleased {id : SlotId} {generation : Nat} {slot : Slot α}
      (found : s.slots.get? id = some slot) (unleased : slot.status ≠ .leased) :
      Refuses s (.release id generation) (.released .discarded)
  | returnOfAnother {id : SlotId} {generation : Nat} {slot : Slot α}
      (found : s.slots.get? id = some slot) (other : slot.generation ≠ generation) :
      Refuses s (.release id generation) (.released .discarded)
  | removalOfUnknown {id : SlotId} (unknown : s.slots.get? id = none) :
      Refuses s (.remove id) (.resource none)

/-- Whether an answer turns an operation down. -/
def Answer.isRefusal : Answer α → Bool
  | .slot none | .rejected _ | .claimed none | .released .discarded | .resource none => true
  | _ => false

theorem perform_refused {operation : Operation α} {answer : Answer α}
    (refused : s.Refuses operation answer) : s.perform operation = (answer, s) := by
  cases refused with
  | resourceOfAnother stale => simp [perform, admitLeased, stale]
  | batchOfAnother stale => simp [perform, admitAvailable, stale]
  | emptyQueue empty => simp [perform, claim, empty]
  | returnToAnother stale => simp [perform, release, stale]
  | returnOfUnknown unknown => simp [perform, release, unknown]
  | returnOfUnleased found unleased => simp [perform, release, found, unleased]
  | returnOfAnother found other => simp [perform, release, found, other]
  | removalOfUnknown unknown => simp [perform, remove, unknown]

namespace Sound

/-- An operation that is turned down leaves the store as it is. -/
theorem perform_of_isRefusal (sound : s.Sound) {operation : Operation α}
    (refused : (s.perform operation).1.isRefusal = true) : (s.perform operation).2 = s := by
  cases operation with
  | admitLeased resource generation =>
      by_cases fresh : generation = s.generation
      · simp [Store.perform, Store.admitLeased, fresh, Answer.isRefusal] at refused
      · exact congrArg Prod.snd (perform_refused (.resourceOfAnother fresh))
  | admitAvailable resources generation =>
      by_cases fresh : generation = s.generation
      · simp [Store.perform, Store.admitAvailable, fresh, Answer.isRefusal] at refused
      · exact congrArg Prod.snd (perform_refused (.batchOfAnother fresh))
  | claim =>
      rcases sound.claim_cases with ⟨_, claimed⟩ | ⟨_, _, _, _, _, _, claimed⟩
      · simp only [Store.perform, claimed]
      · simp [Store.perform, claimed, Answer.isRefusal] at refused
  | release id generation =>
      rcases release_cases s id generation with ⟨_, _, _, _, _, released⟩ | ⟨_, released⟩
      · simp [Store.perform, released, Answer.isRefusal] at refused
      · simp only [Store.perform, released]
  | remove id =>
      rcases remove_cases s id with ⟨_, removed⟩ | ⟨_, _, removed⟩
      · simp only [Store.perform, removed]
      · simp [Store.perform, removed, Answer.isRefusal] at refused
  | lockAvailable | availableIds | members => rfl
  | dispose | clear => simp [Store.perform, Answer.isRefusal] at refused

end Sound

theorem holdings_eq_dropped_add_leased (s : Store α) : s.holdings = ↑s.clear.1 + s.leased := by
  have others : ∀ slot : Slot α, decide (slot.status = .leased) = !decide (slot.status = .available)
    | ⟨_, _, .available⟩ => rfl
    | ⟨_, _, .leased⟩ => rfl
  rw [← coe_members, clear, leased, List.filter_congr fun slot _ => others slot,
    Multiset.coe_add, Multiset.coe_eq_coe, ← List.map_append]
  exact ((List.filter_append_perm _ _).map _).symm

/-- What a store has and what an operation brings is what it has then and what has left. -/
theorem holdings_perform (sound : s.Sound) (operation : Operation α) :
    s.admitted operation + s.holdings =
      (s.perform operation).2.holdings + allLeaving (s.leaving · operation) := by
  cases operation with
  | admitLeased resource generation =>
      have brought := holdings_admitLeased sound resource generation
      have entered : s.admitted (.admitLeased resource generation) =
          (s.admitLeased resource generation).1.elim 0 fun _ => {resource} := by
        cases slot : (s.admitLeased resource generation).1 <;> simp [admitted, perform, slot]
      simpa [entered, allLeaving, leaving, perform] using brought.symm
  | admitAvailable resources generation =>
      cases taken : s.admitAvailable resources generation with
      | none => simp [admitted, allLeaving, leaving, perform, taken]
      | some next =>
          have brought := holdings_admitAvailable sound taken
          simpa [admitted, allLeaving, leaving, perform, taken] using brought.symm
  | claim =>
      have kept := holdings_claim sound
      simpa [admitted, allLeaving, leaving, perform] using kept.symm
  | release id generation =>
      have kept := holdings_release s id generation
      simpa [admitted, allLeaving, leaving, perform] using kept.symm
  | remove id =>
      have taken := holdings_remove sound id
      cases found : (s.remove id).1 <;> rw [found] at taken <;>
        simpa [admitted, allLeaving, leaving, perform, found, add_comm] using taken
  | dispose count =>
      have taken := holdings_dispose sound count
      simpa [admitted, allLeaving, leaving, perform, add_comm] using taken
  | clear =>
      have emptied := holdings_clear s
      have divided := holdings_eq_dropped_add_leased s
      simpa [admitted, allLeaving, leaving, perform, emptied] using divided
  | lockAvailable | availableIds | members =>
      simp [admitted, allLeaving, leaving, perform]

theorem allLeaving_add (before after : Exit → Multiset α) :
    allLeaving (fun exit => before exit + after exit) = allLeaving before + allLeaving after := by
  simp only [allLeaving]
  abel

theorem holdings_after (sound : s.Sound) (history : List (Operation α)) :
    movedAlong admitted s history + s.holdings =
      (s.after history).holdings +
        allLeaving fun exit => movedAlong (leaving · exit) s history := by
  induction history generalizing s with
  | nil => simp [movedAlong, allLeaving, after]
  | cons operation rest ih =>
      have step := holdings_perform sound operation
      have later := ih (sound.perform operation)
      calc movedAlong admitted s (operation :: rest) + s.holdings
          = movedAlong admitted (s.perform operation).2 rest +
              (s.admitted operation + s.holdings) := by
            rw [movedAlong]
            abel
        _ = movedAlong admitted (s.perform operation).2 rest + (s.perform operation).2.holdings +
              allLeaving (s.leaving · operation) := by
            rw [step, add_assoc]
        _ = (s.after (operation :: rest)).holdings +
              allLeaving fun exit => movedAlong (leaving · exit) s (operation :: rest) := by
            rw [later]
            simp only [movedAlong, allLeaving_add]
            rw [add_assoc, add_comm (allLeaving _) (allLeaving _)]
            rfl

/-- Over any history what a new store took in is what it still has, what was removed from it,
what it disposed of, and what its clearings dropped or left to leases that were out. An
operation that it turns down changes nothing, and a batch then comes back as it is. -/
theorem resources_conserved (history : List (Operation α)) :
    let s := ({} : Store α).after history
    let left := fun exit => movedAlong (leaving · exit) ({} : Store α) history
    movedAlong admitted ({} : Store α) history =
      s.members + left .removed + left .disposed + left .dropped + left .stranded ∧
    (∀ operation answer, s.Refuses operation answer → s.perform operation = (answer, s)) ∧
    ∀ operation, (s.perform operation).1.isRefusal = true → (s.perform operation).2 = s := by
  intro s left
  refine ⟨?_, fun _ _ => perform_refused, fun _ => (Sound.empty.after history).perform_of_isRefusal⟩
  have balance := holdings_after Sound.empty history
  rw [show ({} : Store α).holdings = 0 from Table.total_empty _, add_zero, ← coe_members] at balance
  rw [balance, allLeaving]
  abel

/-- Six resources: one is removed, one disposed of, one dropped by a clearing that leaves two to
their leases, and one comes in after it. The lease from before it comes back to nothing. -/
theorem resources_conserved_every_exit :
    let history : List (Operation Nat) :=
      [.admitAvailable [10, 11, 12, 13, 14] 0, .claim, .claim, .remove ⟨0⟩, .dispose 1, .clear,
        .admitLeased 15 1]
    let s := ({} : Store Nat).after history
    s.Refuses (.release ⟨4⟩ 0) (.released .discarded) ∧
    s.perform (.release ⟨4⟩ 0) = (.released .discarded, s) ∧
    movedAlong admitted ({} : Store Nat) history = {15} + {10} + {11} + {12} + {13, 14} := by
  intro history s
  obtain ⟨conserved, refused, _⟩ := resources_conserved history
  have stale : s.Refuses (.release ⟨4⟩ 0) (.released .discarded) := .returnToAnother (by decide)
  refine ⟨stale, refused _ _ stale, conserved.trans ?_⟩
  decide

end ResourcePool.Store
