import ResourcePool.Proofs.Store.Identity
import ResourcePool.System.Basic

/-! Other numbers for generations. Generations from an era on are one higher; which of two is
current, and which comes first, stays the same. A store works the same way whichever numbers its
generations have, and passes them on. -/
namespace ResourcePool

/-- Leaves room for one more generation at the begin of an era. -/
def renumber (era generation : Nat) : Nat :=
  if generation < era then generation else generation + 1

theorem renumber_of_lt {era generation : Nat} (early : generation < era) :
    renumber era generation = generation := if_pos early

theorem renumber_of_le {era generation : Nat} (late : era ≤ generation) :
    renumber era generation = generation + 1 := if_neg (Nat.not_lt.mpr late)

theorem renumber_inj {era generation other : Nat} :
    renumber era generation = renumber era other ↔ generation = other := by
  unfold renumber
  split <;> split <;> omega

def Slot.renumber {α : Type} (era : Nat) (slot : Slot α) : Slot α :=
  { slot with generation := ResourcePool.renumber era slot.generation }

def Claim.renumber {α : Type} (era : Nat) (claim : Claim α) : Claim α :=
  { claim with generation := ResourcePool.renumber era claim.generation }

def Lease.renumber (era : Nat) (lease : Lease) : Lease :=
  { lease with generation := ResourcePool.renumber era lease.generation }

def Acquisition.renumber (era : Nat) : Acquisition → Acquisition
  | .leased lease => .leased (lease.renumber era)
  | .checking lease => .checking (lease.renumber era)
  | .creating generation call => .creating (ResourcePool.renumber era generation) call
  | .failed failure => .failed failure
  | .panicked text => .panicked text

def Call.renumber (era : Nat) : Call → Call
  | .getting (.checking lease) => .getting (.checking (lease.renumber era))
  | .getting (.creating generation call) =>
      .getting (.creating (ResourcePool.renumber era generation) call)
  | call => call

def Keeper.Batch.renumber (era : Nat) (batch : Keeper.Batch) : Keeper.Batch :=
  { batch with generation := ResourcePool.renumber era batch.generation }

def Stage.renumber (era : Nat) : Stage → Stage
  | .creating batch => .creating (batch.renumber era)
  | stage => stage

def Job.renumber (era : Nat) (j : Job) : Job := { j with stage := j.stage.renumber era }

def Store.renumber {α : Type} (era : Nat) (s : Store α) : Store α :=
  { s with
    generation := ResourcePool.renumber era s.generation
    slots := s.slots.map (Slot.renumber era) }

theorem Call.isWaiting_renumber (era : Nat) (call : Call) :
    (call.renumber era).isWaiting = call.isWaiting := by
  cases call with
  | getting acquisition => cases acquisition <;> rfl
  | _ => rfl

theorem Job.isOver_renumber (era : Nat) (j : Job) : (j.renumber era).isOver = j.isOver := by
  obtain ⟨kind, enabled, stage⟩ := j
  cases stage <;> rfl

namespace Store
variable {α : Type} {era : Nat} {s : Store α}

/-- What is current stays current. -/
theorem current_renumber (era generation : Nat) (s : Store α) :
    ResourcePool.renumber era generation = (s.renumber era).generation ↔
      generation = s.generation := renumber_inj

theorem get?_renumber (era : Nat) (s : Store α) (id : SlotId) :
    (s.renumber era).slots.get? id = (s.slots.get? id).map (Slot.renumber era) :=
  Table.get?_map ..

theorem population_renumber (era : Nat) (s : Store α) :
    (s.renumber era).population = s.population := by
  simp only [population, renumber, Table.size_map]

theorem members_renumber (era : Nat) (s : Store α) : (s.renumber era).members = s.members := by
  simp only [members, renumber, Table.values_map, List.map_map]
  rfl

theorem insert_renumber (era : Nat) (s : Store α) (resource : α) (status : SlotStatus) :
    (s.renumber era).insert resource status =
      ((s.insert resource status).1, (s.insert resource status).2.renumber era) := by
  simp only [insert, renumber, ← Table.set_map]
  rfl

theorem insertAll_renumber (era : Nat) (s : Store α) (resources : List α) :
    (s.renumber era).insertAll resources = (s.insertAll resources).renumber era := by
  induction resources generalizing s with
  | nil => rfl
  | cons resource rest ih =>
      have inserted := congrArg Prod.snd (s.insert_renumber era resource .available)
      have later := ih (s.insert resource .available).2
      simp only [insertAll, List.foldl_cons] at later ⊢
      rw [inserted]
      exact later

theorem admitLeased_renumber (era : Nat) (s : Store α) (resource : α) (generation : Nat) :
    (s.renumber era).admitLeased resource (ResourcePool.renumber era generation) =
      ((s.admitLeased resource generation).1,
        (s.admitLeased resource generation).2.renumber era) := by
  simp only [admitLeased, current_renumber, insert_renumber]
  split <;> rfl

theorem admitAvailable_renumber (era : Nat) (s : Store α) (resources : List α)
    (generation : Nat) :
    (s.renumber era).admitAvailable resources (ResourcePool.renumber era generation) =
      (s.admitAvailable resources generation).map (renumber era) := by
  simp only [admitAvailable, current_renumber, insertAll_renumber]
  split <;> rfl

theorem claim_renumber (era : Nat) (s : Store α) :
    (s.renumber era).claim = (s.claim.1.map (Claim.renumber era), s.claim.2.renumber era) := by
  have queue : (s.renumber era).available = s.available := rfl
  unfold claim
  rw [queue]
  cases s.available.getLast? with
  | none => rfl
  | some id =>
      have known := s.get?_renumber era id
      simp only
      cases found : s.slots.get? id <;> rw [found] at known <;> simp only [known]
      · rfl
      · simp only [renumber, ← Table.set_map]
        rfl

theorem release_renumber (era : Nat) (s : Store α) (id : SlotId) (generation : Nat) :
    (s.renumber era).release id (ResourcePool.renumber era generation) =
      ((s.release id generation).1, (s.release id generation).2.renumber era) := by
  have known := s.get?_renumber era id
  simp only [release, ne_eq, current_renumber, known]
  split
  · rfl
  · cases s.slots.get? id with
    | none => rfl
    | some slot =>
        have own : (slot.renumber era).generation = ResourcePool.renumber era generation ↔
            slot.generation = generation := renumber_inj
        have status : (slot.renumber era).status = slot.status := rfl
        simp only [Option.map_some, own, status]
        split
        · simp only [renumber, ← Table.set_map]
          rfl
        · rfl

theorem remove_renumber (era : Nat) (s : Store α) (id : SlotId) :
    (s.renumber era).remove id = ((s.remove id).1, (s.remove id).2.renumber era) := by
  rw [remove, get?_renumber, remove]
  cases s.slots.get? id with
  | none => rfl
  | some slot =>
      simp only [Option.map_some, renumber, ← Table.erase_map]
      rfl

theorem lockAvailable_renumber (era : Nat) (s : Store α) (id : SlotId) :
    (s.renumber era).lockAvailable id = s.lockAvailable id := by
  rw [lockAvailable, get?_renumber, lockAvailable]
  cases s.slots.get? id with
  | none => rfl
  | some slot => rfl

theorem disposeFrom_renumber (era : Nat) (queue : List SlotId) (count : Nat) (s : Store α) :
    disposeFrom queue count (s.renumber era) =
      ((disposeFrom queue count s).1, (disposeFrom queue count s).2.renumber era) := by
  induction queue generalizing count s with
  | nil => rfl
  | cons id rest ih =>
      cases count with
      | zero => rfl
      | succ count =>
          have known := s.get?_renumber era id
          cases found : s.slots.get? id <;> rw [found] at known <;>
            simp only [disposeFrom, found, known]
          · exact ih (count + 1) s
          · rename_i slot
            have erased : ({ s.renumber era with slots := (s.renumber era).slots.erase id } :
                Store α) = ({ s with slots := s.slots.erase id } : Store α).renumber era := by
              simp only [renumber, ← Table.erase_map]
            simp only [Option.map_some, erased, ih]
            rfl

theorem dispose_renumber (era : Nat) (s : Store α) (count : Nat) :
    (s.renumber era).dispose count =
      ((s.dispose count).1, (s.dispose count).2.renumber era) :=
  disposeFrom_renumber era s.available count s

/-! ## Generations -/

theorem generation_admitLeased (s : Store α) (resource : α) (generation : Nat) :
    (s.admitLeased resource generation).2.generation = s.generation := by
  unfold admitLeased
  split <;> rfl

theorem generation_admitAvailable {s admitted : Store α} {resources : List α} {generation : Nat}
    (accepted : s.admitAvailable resources generation = some admitted) :
    admitted.generation = s.generation := by
  unfold admitAvailable at accepted
  split at accepted
  · cases accepted
    exact (s.insertAll_spec resources).1
  · contradiction

theorem generation_claim (s : Store α) : s.claim.2.generation = s.generation := by
  unfold claim
  split
  · rfl
  · simp only
    split <;> rfl

theorem generation_release (s : Store α) (id : SlotId) (generation : Nat) :
    (s.release id generation).2.generation = s.generation := by
  rcases s.release_cases id generation with ⟨_, _, _, _, _, released⟩ | ⟨_, released⟩ <;>
    rw [released]

theorem generation_remove (s : Store α) (id : SlotId) :
    (s.remove id).2.generation = s.generation := by
  rcases s.remove_cases id with ⟨_, removed⟩ | ⟨_, _, removed⟩ <;> rw [removed]

theorem generation_disposeFrom (queue : List SlotId) (count : Nat) (s : Store α) :
    (disposeFrom queue count s).2.generation = s.generation := by
  induction queue generalizing count s with
  | nil => rfl
  | cons id rest ih =>
      cases count with
      | zero => rfl
      | succ count =>
          unfold disposeFrom
          split
          · exact ih (count + 1) s
          · exact ih count { s with slots := s.slots.erase id }

/-- From its begin on an era stays ahead by one, also across clearings. -/
theorem clear_renumber (late : era ≤ s.generation) :
    (s.renumber era).clear = (s.clear.1, s.clear.2.renumber era) := by
  have idle : ((s.slots.values.map (Slot.renumber era)).filter (·.status = .available)).map
      Slot.resource = (s.slots.values.filter (·.status = .available)).map Slot.resource := by
    rw [List.filter_map, List.map_map]
    rfl
  have next : ResourcePool.renumber era s.generation + 1 =
      ResourcePool.renumber era (s.generation + 1) := by
    rw [renumber_of_le late, renumber_of_le (Nat.le_succ_of_le late)]
  simp only [clear, renumber, Table.values_map, idle, next]
  rfl

end Store
end ResourcePool
