import ResourcePool.Proofs.Custody.Basic

/-! Leases are exclusive: a slot is leased exactly as long as somebody has its lease, and
nobody else has it. -/
namespace ResourcePool.Custody
open Function (update update_self update_of_ne)

variable {c : Custody} {store : Store Resource} {h : Holder} {l : Lease} {id : SlotId}

structure Exclusive (c : Custody) : Prop where
  sound : c.store.Sound
  alone : ∀ h h' l l' id, c.leaseOf h = some l → c.leaseOf h' = some l' →
    l.slot = some id → l'.slot = some id → h = h'
  leased : ∀ h l id slot, c.leaseOf h = some l → l.slot = some id →
    c.store.slots.get? id = some slot → slot = ⟨l.resource, l.generation, .leased⟩
  held : ∀ id slot, c.store.slots.get? id = some slot → slot.status = .leased →
    ∃ h l, c.leaseOf h = some l ∧ l.slot = some id
  known : ∀ h l id, c.leaseOf h = some l → l.slot = some id → id.number < c.store.nextId
  past : ∀ h l id, c.leaseOf h = some l → l.slot = some id → l.generation ≤ c.store.generation

namespace Exclusive

theorem upkeep {operation : Store.Operation Resource} (exclusive : c.Exclusive)
    (upkeep : operation.isUpkeep) :
    Exclusive ⟨(c.store.perform operation).2, c.leaseOf⟩ := by
  have follows := exclusive.sound.follows operation
  refine ⟨exclusive.sound.perform operation, exclusive.alone, ?_, ?_, ?_, ?_⟩
  · intro h l id slot holds pooled found
    rcases follows.origin id slot found with ⟨before, stored, _, same⟩ | ⟨later, _⟩
    · exact same upkeep ▸ exclusive.leased h l id before holds pooled stored
    · have opened := exclusive.known h l id holds pooled
      exact False.elim (Nat.lt_irrefl _ (Nat.lt_of_lt_of_le opened later))
  · intro id slot found leased
    rcases follows.origin id slot found with ⟨before, stored, _, same⟩ | ⟨_, _, idle⟩
    · exact exclusive.held id slot (same upkeep ▸ stored) leased
    · cases leased.symm.trans (idle upkeep)
  · intro h l id holds pooled
    exact Nat.lt_of_lt_of_le (exclusive.known h l id holds pooled) follows.nextId
  · intro h l id holds pooled
    refine Nat.le_trans (exclusive.past h l id holds pooled) ?_
    exact follows.generation ▸ Nat.le_add_right _ _

/-- Somebody gets the lease of a slot that nobody has. -/
theorem entrust (exclusive : c.Exclusive) (sound : store.Sound)
    (generation : c.store.generation = store.generation) (nextId : c.store.nextId ≤ store.nextId)
    (free : c.leaseOf h = none) (pooled : l.slot = some id)
    (stored : store.slots.get? id = some ⟨l.resource, l.generation, .leased⟩)
    (unheld : ∀ h' l', c.leaseOf h' = some l' → l'.slot ≠ some id)
    (others : ∀ other, other ≠ id → store.slots.get? other = c.store.slots.get? other) :
    Exclusive ⟨store, update c.leaseOf h (some l)⟩ := by
  -- Whoever has a lease now is the new holder, or had it before, of another slot.
  have cases : ∀ h' l' other, update c.leaseOf h (some l) h' = some l' → l'.slot = some other →
      (h' = h ∧ l' = l ∧ other = id) ∨ (c.leaseOf h' = some l' ∧ other ≠ id) := by
    intro h' l' other holds pooled'
    rcases holds_cases holds with ⟨rfl, ⟨⟩⟩ | ⟨_, before⟩
    · exact Or.inl ⟨rfl, rfl, Option.some.inj (pooled'.symm.trans pooled)⟩
    · exact Or.inr ⟨before, fun slot => unheld h' l' before (slot ▸ pooled')⟩
  refine ⟨sound, ?_, ?_, ?_, ?_, ?_⟩
  · intro h₁ h₂ l₁ l₂ other holds₁ holds₂ pooled₁ pooled₂
    rcases cases h₁ l₁ other holds₁ pooled₁ with ⟨rfl, _, same⟩ | ⟨before, different⟩ <;>
      rcases cases h₂ l₂ other holds₂ pooled₂ with ⟨rfl, _, same'⟩ | ⟨before', different'⟩
    · rfl
    · exact False.elim (different' same)
    · exact False.elim (different same')
    · exact exclusive.alone h₁ h₂ l₁ l₂ other before before' pooled₁ pooled₂
  · intro h' l' other slot holds pooled' found
    rcases cases h' l' other holds pooled' with ⟨_, rfl, rfl⟩ | ⟨before, different⟩
    · exact Option.some.inj (found.symm.trans stored)
    · exact exclusive.leased h' l' other slot before pooled' (others other different ▸ found)
  · intro other slot found leased
    by_cases new : other = id
    · exact ⟨h, l, update_self .., new ▸ pooled⟩
    · obtain ⟨h', l', before, pooled'⟩ :=
        exclusive.held other slot (others other new ▸ found) leased
      have different : h' ≠ h := by
        rintro rfl
        cases free.symm.trans before
      exact ⟨h', l', (update_of_ne different ..).trans before, pooled'⟩
  · intro h' l' other holds pooled'
    rcases cases h' l' other holds pooled' with ⟨_, rfl, rfl⟩ | ⟨before, _⟩
    · exact sound.opened other _ stored
    · exact Nat.lt_of_lt_of_le (exclusive.known h' l' other before pooled') nextId
  · intro h' l' other holds pooled'
    rcases cases h' l' other holds pooled' with ⟨_, rfl, rfl⟩ | ⟨before, _⟩
    · exact Nat.le_of_eq (sound.current other _ stored)
    · exact generation ▸ exclusive.past h' l' other before pooled'

/-- A lease ends, and its slot is not leased any more. -/
theorem relieve (exclusive : c.Exclusive) (sound : store.Sound)
    (generation : c.store.generation = store.generation) (nextId : c.store.nextId ≤ store.nextId)
    (holds : c.leaseOf h = some l)
    (ended : ∀ id slot, l.slot = some id → store.slots.get? id = some slot →
      slot.status = .available)
    (others : ∀ other, l.slot ≠ some other → store.slots.get? other = c.store.slots.get? other) :
    Exclusive ⟨store, update c.leaseOf h none⟩ := by
  have remains : ∀ h' l', update c.leaseOf h none h' = some l' →
      h' ≠ h ∧ c.leaseOf h' = some l' := by
    intro h' l' holds'
    rcases holds_cases holds' with ⟨_, ⟨⟩⟩ | before
    exact before
  refine ⟨sound, ?_, ?_, ?_, ?_, ?_⟩
  · intro h₁ h₂ l₁ l₂ other holds₁ holds₂ pooled₁ pooled₂
    exact exclusive.alone h₁ h₂ l₁ l₂ other (remains h₁ l₁ holds₁).2 (remains h₂ l₂ holds₂).2
      pooled₁ pooled₂
  · intro h' l' other slot holds' pooled' found
    obtain ⟨different, before⟩ := remains h' l' holds'
    have apart : l.slot ≠ some other := fun pooled =>
      different (exclusive.alone h' h l' l other before holds pooled' pooled)
    exact exclusive.leased h' l' other slot before pooled' (others other apart ▸ found)
  · intro other slot found leased
    by_cases own : l.slot = some other
    · cases leased.symm.trans (ended other slot own found)
    · obtain ⟨h', l', before, pooled'⟩ :=
        exclusive.held other slot (others other own ▸ found) leased
      have different : h' ≠ h := by
        rintro rfl
        cases holds.symm.trans before
        exact own pooled'
      exact ⟨h', l', (update_of_ne different ..).trans before, pooled'⟩
  · intro h' l' other holds' pooled'
    exact Nat.lt_of_lt_of_le (exclusive.known h' l' other (remains h' l' holds').2 pooled') nextId
  · intro h' l' other holds' pooled'
    exact generation ▸ exclusive.past h' l' other (remains h' l' holds').2 pooled'

/-- A lease that is not pooled concerns nobody. -/
theorem unpooled (exclusive : c.Exclusive) (free : c.leaseOf h = none) (outside : l.slot = none) :
    Exclusive ⟨c.store, update c.leaseOf h (some l)⟩ := by
  have pooled : ∀ h' l' id, update c.leaseOf h (some l) h' = some l' → l'.slot = some id →
      c.leaseOf h' = some l' := by
    intro h' l' id holds slot
    rcases holds_cases holds with ⟨_, ⟨⟩⟩ | ⟨_, before⟩
    · cases outside.symm.trans slot
    · exact before
  refine ⟨exclusive.sound, ?_, ?_, ?_, ?_, ?_⟩
  · intro h₁ h₂ l₁ l₂ id holds₁ holds₂ pooled₁ pooled₂
    exact exclusive.alone h₁ h₂ l₁ l₂ id (pooled h₁ l₁ id holds₁ pooled₁)
      (pooled h₂ l₂ id holds₂ pooled₂) pooled₁ pooled₂
  · intro h' l' id slot holds slotted found
    exact exclusive.leased h' l' id slot (pooled h' l' id holds slotted) slotted found
  · intro id slot found leased
    obtain ⟨h', l', before, slotted⟩ := exclusive.held id slot found leased
    have different : h' ≠ h := by
      rintro rfl
      cases free.symm.trans before
    exact ⟨h', l', (update_of_ne different ..).trans before, slotted⟩
  · intro h' l' id holds slotted
    exact exclusive.known h' l' id (pooled h' l' id holds slotted) slotted
  · intro h' l' id holds slotted
    exact exclusive.past h' l' id (pooled h' l' id holds slotted) slotted

theorem claim (exclusive : c.Exclusive) (free : c.leaseOf h = none) :
    Exclusive ⟨c.store.claim.2, update c.leaseOf h (c.store.claim.1.map Claim.lease)⟩ := by
  have sound := exclusive.sound.claim
  rcases exclusive.sound.claim_cases with
    ⟨_, claimed⟩ | ⟨queue, id, slot, _, found, idle, claimed⟩ <;> rw [claimed] at sound ⊢
  · rw [Option.map_none, ← free, Function.update_eq_self]
    exact exclusive
  · have stored := exclusive.sound.claim_stored (congrArg Prod.fst claimed)
    rw [claimed] at stored
    refine exclusive.entrust sound rfl (Nat.le_refl _) free rfl stored ?_ ?_
    · intro h' l' holds pooled
      have out := exclusive.leased h' l' id slot holds pooled found
      rw [out] at idle
      contradiction
    · intro other different
      exact Table.get?_set_of_ne _ _ (Ne.symm different)

theorem enter (exclusive : c.Exclusive) (free : c.leaseOf h = none) (resource : Resource)
    (generation : Nat) :
    Exclusive ⟨(c.store.admitLeased resource generation).2, update c.leaseOf h
      (some ⟨resource, (c.store.admitLeased resource generation).1, generation⟩)⟩ := by
  have sound := exclusive.sound.admitLeased resource generation
  by_cases fresh : generation = c.store.generation
  · simp only [Store.admitLeased, if_pos fresh] at sound ⊢
    refine exclusive.entrust sound rfl (Nat.le_succ _) free rfl ?_ ?_ ?_
    · rw [fresh]
      exact Table.get?_set_self ..
    · intro h' l' holds pooled
      exact Nat.lt_irrefl _ (exclusive.known h' l' _ holds pooled)
    · intro other different
      exact Table.get?_set_of_ne _ _ (Ne.symm different)
  · simp only [Store.admitLeased, if_neg fresh]
    exact exclusive.unpooled free rfl

theorem pass (exclusive : c.Exclusive) (exchange : Equiv.Perm Holder) :
    Exclusive ⟨c.store, c.leaseOf ∘ exchange⟩ where
  sound := exclusive.sound
  alone := by
    intro h h' l l' id holds holds' pooled pooled'
    exact exchange.injective (exclusive.alone _ _ l l' id holds holds' pooled pooled')
  leased := fun h => exclusive.leased (exchange h)
  held := by
    intro id slot found leased
    obtain ⟨h, l, holds, pooled⟩ := exclusive.held id slot found leased
    refine ⟨exchange.symm h, l, ?_, pooled⟩
    simpa only [Function.comp_apply, Equiv.apply_symm_apply] using holds
  known := fun h => exclusive.known (exchange h)
  past := fun h => exclusive.past (exchange h)

theorem giveBack (exclusive : c.Exclusive) (holds : c.leaseOf h = some l) :
    Exclusive ⟨l.slot.elim c.store fun slot => (c.store.release slot l.generation).2,
      update c.leaseOf h none⟩ := by
  cases pooled : l.slot with
  | none =>
      refine exclusive.relieve exclusive.sound rfl (Nat.le_refl _) holds ?_ fun _ _ => rfl
      simp [pooled]
  | some id =>
      have sound := exclusive.sound.release id l.generation
      rw [Option.elim_some]
      rcases Store.release_cases c.store id l.generation with
        ⟨slot, _, found, _, _, released⟩ | ⟨refused, released⟩ <;> rw [released] at sound ⊢
      · refine exclusive.relieve sound rfl (Nat.le_refl _) holds ?_ ?_
        · rintro other entry own stored
          cases pooled.symm.trans own
          rw [Table.get?_set_self] at stored
          cases stored
          rfl
        · intro other different
          refine Table.get?_set_of_ne _ _ ?_
          rintro rfl
          exact different pooled
      · -- A slot that is still there would have been recycled.
        refine exclusive.relieve sound rfl (Nat.le_refl _) holds ?_ fun _ _ => rfl
        rintro other entry own stored
        cases pooled.symm.trans own
        have out := exclusive.leased h l id entry holds pooled stored
        have current := exclusive.sound.current id entry stored
        exact False.elim (refused entry stored (by rw [out]) (by rw [out]) (by rw [← current, out]))

theorem forget (exclusive : c.Exclusive) (holds : c.leaseOf h = some l) :
    Exclusive
      ⟨l.slot.elim c.store fun slot => (c.store.remove slot).2, update c.leaseOf h none⟩ := by
  cases pooled : l.slot with
  | none =>
      refine exclusive.relieve exclusive.sound rfl (Nat.le_refl _) holds ?_ fun _ _ => rfl
      simp [pooled]
  | some id =>
      have sound := exclusive.sound.remove id
      rw [Option.elim_some]
      rcases Store.remove_cases c.store id with ⟨absent, removed⟩ | ⟨slot, found, removed⟩ <;>
        rw [removed] at sound ⊢
      · refine exclusive.relieve sound rfl (Nat.le_refl _) holds ?_ fun _ _ => rfl
        rintro other entry own stored
        cases pooled.symm.trans own
        cases absent.symm.trans stored
      · refine exclusive.relieve sound rfl (Nat.le_refl _) holds ?_ ?_
        · rintro other entry own stored
          cases pooled.symm.trans own
          rw [Table.get?_erase_self] at stored
          contradiction
        · intro other different
          refine Table.get?_erase_of_ne _ ?_
          rintro rfl
          exact different pooled

variable {allowed : Store.Operation Resource → Prop} {next : Custody}

theorem step (exclusive : c.Exclusive) (step : Step allowed c next) : next.Exclusive := by
  cases step with
  | upkeep quiet _ => exact exclusive.upkeep quiet
  | claim free => exact exclusive.claim free
  | enter free _ => exact exclusive.enter free _ _
  | pass exchange => exact exclusive.pass exchange
  | giveBack holds => exact exclusive.giveBack holds
  | forget holds => exact exclusive.forget holds

theorem steps (exclusive : c.Exclusive) (path : Relation.ReflTransGen (Step allowed) c next) :
    next.Exclusive := by
  induction path with
  | refl => exact exclusive
  | tail _ last ih => exact ih.step last

theorem empty : Exclusive ⟨{}, fun _ => none⟩ where
  sound := .empty
  alone := by simp
  leased := by simp
  held := by simp
  known := by simp
  past := by simp

theorem close (exclusive : c.Exclusive) : c.close.Exclusive where
  sound := .emptied c.store
  alone := exclusive.alone
  leased := by simp [Custody.close]
  held := by simp [Custody.close]
  known := exclusive.known
  past := exclusive.past

end Exclusive
end ResourcePool.Custody
