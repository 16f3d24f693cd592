import Mathlib.Data.List.Induction
import ResourcePool.Proofs.Custody.Loss
import ResourcePool.Proofs.System.Run

/-! Leases in a run. A leased slot has exactly one holder, and a lease loses its slot within
a generation only to a health cycle. -/
namespace ResourcePool.System

variable {s : System} {a : Action} {h : Holder} {l : Lease} {id : SlotId}

/-- Whether an action ends the check of a health cycle by taking a slot off the books while
somebody has its lease. -/
def EvictsLeased (s : System) (a : Action) (l : Lease) (id : SlotId) : Prop :=
  ∃ job j round verdict, a = .signal job (.judge verdict) ∧ verdict.condemns = true ∧
    s.jobs.get? job = some j ∧ j.kind = .health ∧ j.stage = .checking round ∧ round.slot = id ∧
    (∃ h, s.leaseOf h = some l) ∧
    (∃ slot, s.books.store.slots.get? id = some slot ∧ slot.status = .leased) ∧
    (s.step a).books.store.slots.get? id = none

theorem EvictsLeased.lost (evicts : s.EvictsLeased a l id) :
    (∃ slot, s.books.store.slots.get? id = some slot) ∧
      (s.step a).books.store.slots.get? id = none := by
  obtain ⟨_, _, _, _, _, _, _, _, _, _, _, ⟨slot, found, _⟩, absent⟩ := evicts
  exact ⟨⟨slot, found⟩, absent⟩

theorem leaseOf_signalJob (s : System) (id : JobId) (signal : Signal) :
    (s.signalJob id signal).leaseOf = s.leaseOf := by
  unfold signalJob
  split
  · rfl
  · split <;> rfl

/-- A lease that an action leaves bereft was so before, or a health cycle has evicted it. -/
theorem Orderly.bereft_step (orderly : s.Orderly) (reachable : (s.step a).closed = false)
    (bereft : (s.step a).custody.Bereft l id) :
    s.closed = false ∧ (s.custody.Bereft l id ∨ s.EvictsLeased a l id) := by
  rcases step_cases s a with same | performed
  · rw [same] at reachable bereft
    exact ⟨reachable, Or.inl bereft⟩
  · rcases settle_cases (s.perform a) with same | ⟨_, _, books, settled, _⟩
    · have effect := perform_effect orderly a
      have stepped := performed.trans same
      have absent := bereft.2.2.2
      rw [stepped] at reachable bereft
      refine ⟨effect.closed.symm.trans reachable, ?_⟩
      rcases orderly.custody.bereft_steps effect.custody bereft with warrant | before
      · cases a with
        | signal job signal =>
            obtain ⟨j, found, round, verdict, standing, own, rfl, condemned⟩ := warrant
            obtain ⟨⟨h, holds⟩, pooled, current, _⟩ := bereft
            have holds : s.leaseOf h = some l := s.leaseOf_signalJob job _ ▸ holds
            have past := orderly.custody.past h l id holds pooled
            have grows := (Custody.steps_generation orderly.custody effect.custody).1
            cases stored : s.books.store.slots.get? id with
            | none =>
                exact Or.inl ⟨⟨h, holds⟩, pooled, Nat.le_antisymm past (current ▸ grows), stored⟩
            | some slot =>
                have leased := orderly.custody.leased h l id slot holds pooled stored
                exact Or.inr ⟨job, j, round, verdict, rfl, condemned, found,
                  (orderly.checks job j round found standing).1, standing, own, ⟨h, holds⟩,
                  ⟨slot, stored, congrArg Slot.status leased⟩, absent⟩
        | supply c supply =>
            obtain ⟨_, _, _, other⟩ := warrant
            contradiction
        | clear => cases warrant
        | _ => exact False.elim warrant
      · exact Or.inl before
    · rw [performed, settled] at reachable
      contradiction

/-- A lease that some actions leave bereft was so before, or a health cycle has evicted it. -/
theorem Orderly.bereft_run (orderly : s.Orderly) (actions : List Action)
    (reachable : (s.run actions).closed = false)
    (bereft : (s.run actions).custody.Bereft l id) :
    s.custody.Bereft l id ∨
      ∃ pre a post, actions = pre ++ a :: post ∧ (s.run pre).EvictsLeased a l id := by
  induction actions using List.reverseRecOn with
  | nil => exact Or.inl bereft
  | append_singleton actions a ih =>
      rw [run_concat] at reachable bereft
      obtain ⟨reachable, before | evicted⟩ := (orderly.run actions).bereft_step reachable bereft
      · refine (ih reachable before).imp_right ?_
        rintro ⟨pre, evicting, post, split, evicts⟩
        exact ⟨pre, evicting, post ++ [a], by simp [split], evicts⟩
      · exact Or.inr ⟨actions, a, [], rfl, evicted⟩

theorem Orderly.evicted_of_bereft (orderly : s.Orderly) (unleased : ∀ h, s.leaseOf h = none)
    (actions : List Action) (reachable : (s.run actions).closed = false)
    (bereft : (s.run actions).custody.Bereft l id) :
    ∃ pre a post, actions = pre ++ a :: post ∧ (s.run pre).EvictsLeased a l id := by
  refine (orderly.bereft_run actions reachable bereft).resolve_left ?_
  rintro ⟨⟨h, holds⟩, _⟩
  cases (unleased h).symm.trans holds

/-- In every run a leased slot has exactly one holder and an available one has none; until the
books are closed, a lease of the current generation keeps its slot unless a health cycle evicts
it; and without leases all slots are available. -/
theorem leases_exclusive (id : Nat) (settings : Settings) (sink : Sink) (actions : List Action) :
    let start := ofSettings id settings sink
    let s := start.run actions
    (∀ id slot, s.books.store.slots.get? id = some slot → slot.status = .leased →
      ∃! h, ∃ l, s.leaseOf h = some l ∧ l.slot = some id) ∧
    (∀ id slot, s.books.store.slots.get? id = some slot → slot.status = .available →
      ∀ h l, s.leaseOf h = some l → l.slot ≠ some id) ∧
    (s.closed = false → ∀ h l id, s.leaseOf h = some l → l.slot = some id →
      l.generation = s.books.store.generation →
      (∃ slot, s.books.store.slots.get? id = some slot ∧ slot.status = .leased) ∨
        ∃ pre a post, actions = pre ++ a :: post ∧ (start.run pre).EvictsLeased a l id) ∧
    ((∀ h, s.leaseOf h = none) →
      s.books.store.population.available = s.books.store.population.size) := by
  intro start s
  have initial : start.Orderly := orderly_ofSettings id settings sink
  have orderly : s.Orderly := initial.run actions
  have unleased : ∀ h, start.leaseOf h = none := by
    intro h
    cases h <;> rfl
  refine ⟨?_, ?_, ?_, ?_⟩
  · intro id slot found leased
    obtain ⟨h, l, holds, pooled⟩ := orderly.custody.held id slot found leased
    refine ⟨h, ⟨l, holds, pooled⟩, ?_⟩
    rintro h' ⟨l', holds', pooled'⟩
    exact orderly.custody.alone h' h l' l id holds' holds pooled' pooled
  · intro id slot found idle h l holds pooled
    have leased := orderly.custody.leased h l id slot holds pooled found
    cases idle.symm.trans (congrArg Slot.status leased)
  · intro reachable h l id holds pooled current
    cases found : s.books.store.slots.get? id with
    | some slot =>
        have leased := orderly.custody.leased h l id slot holds pooled found
        exact Or.inl ⟨slot, rfl, congrArg Slot.status leased⟩
    | none =>
        exact Or.inr (initial.evicted_of_bereft unleased actions reachable
          ⟨⟨h, holds⟩, pooled, current, found⟩)
  · intro free
    apply orderly.custody.sound.available_eq_size
    intro id slot found
    cases status : slot.status with
    | available => rfl
    | leased =>
        obtain ⟨h, l, holds, _⟩ := orderly.custody.held id slot found status
        cases (free h).symm.trans holds

end ResourcePool.System
