import ResourcePool.Proofs.Custody.Identity
import ResourcePool.Proofs.System.Eviction

/-! Slots in a run. A slot number is given out once and stands for one resource ever after, so
what acts on a bare number after a wait, a health cycle or the end of a lease, meets the slot
it means or none. -/
namespace ResourcePool.System
open Books (Changes)

variable {s next : System} {a : Action} {register : SlotId → Resource}
variable {slot : SlotId} {resource : Resource}

/-- Whether a slot number stands for a resource: in the store, on a lease, or in a health cycle
that waits for a check. -/
def Denotes (s : System) (slot : SlotId) (resource : Resource) : Prop :=
  (∃ entry, s.books.store.slots.get? slot = some entry ∧ entry.resource = resource) ∨
  (∃ h l, s.leaseOf h = some l ∧ l.slot = some slot ∧ l.resource = resource) ∨
  ∃ job j round, s.jobs.get? job = some j ∧ j.stage = .checking round ∧ round.slot = slot ∧
    round.resource = resource

theorem Orderly.opened (orderly : s.Orderly) (denotes : s.Denotes slot resource) :
    slot.number < s.books.store.nextId := by
  rcases denotes with ⟨entry, found, _⟩ | ⟨h, l, holds, pooled, _⟩ |
    ⟨job, j, round, found, standing, rfl, _⟩
  · exact orderly.custody.sound.opened slot entry found
  · exact orderly.custody.known h l slot holds pooled
  · exact (orderly.checks job j round found standing).2

/-- A register has the resource of every slot that anybody knows. -/
structure Registers (register : SlotId → Resource) (s : System) : Prop where
  custody : s.custody.Registers register
  checks : ∀ job j round, s.jobs.get? job = some j → j.stage = .checking round →
    register round.slot = round.resource

namespace Registers

theorem denotes (registers : Registers register s) (denotes : s.Denotes slot resource) :
    register slot = resource := by
  rcases denotes with ⟨entry, found, rfl⟩ | ⟨h, l, holds, pooled, rfl⟩ |
    ⟨job, j, round, found, standing, rfl, rfl⟩
  · exact registers.custody.members slot entry found
  · exact registers.custody.leases h l slot holds pooled
  · exact registers.checks job j round found standing

/-- What a register says of the slots opened so far stands after an effect. -/
theorem effect (registers : Registers register s) (orderly : s.Orderly)
    (effect : Effect s a next) :
    s.books.store.nextId ≤ next.books.store.nextId ∧
    ∃ extended, (∀ id, id.number < s.books.store.nextId → extended id = register id) ∧
      Registers extended next := by
  obtain ⟨grows, extended, old, custody⟩ :=
    registers.custody.steps orderly.custody effect.custody
  refine ⟨grows, extended, old, custody, ?_⟩
  intro job j round found standing
  rcases effect.jobs job j found with ⟨before, stored, _, stage⟩ | ⟨spawned, _⟩ |
    ⟨before, _, _, _, _, _, proceeds⟩
  · have checking := stage.trans standing
    rw [old _ (orderly.checks job before round stored checking).2]
    exact registers.checks job before round stored checking
  · cases standing.symm.trans spawned
  · rw [standing] at proceeds
    obtain ⟨entry, found, _, same⟩ := Store.lockAvailable_found proceeds.2
    rw [← same]
    exact custody.members round.slot entry found

theorem run (registers : Registers register s) (orderly : s.Orderly) (actions : List Action) :
    ∃ extended, (∀ id, id.number < s.books.store.nextId → extended id = register id) ∧
      Registers extended (s.run actions) := by
  let kept (t : System) : Prop := s.books.store.nextId ≤ t.books.store.nextId ∧
    ∃ extended, (∀ id, id.number < s.books.store.nextId → extended id = register id) ∧
      Registers extended t
  have start : kept s := ⟨Nat.le_refl _, register, fun _ _ => rfl, registers⟩
  refine (orderly.run_keeps (P := kept) start ?_ actions).2
  intro t a orderly held
  refine orderly.step_keeps (P := kept) held ?_ ?_
  · intro next effect
    obtain ⟨grown, middle, old, registers⟩ := held
    obtain ⟨grows, extended, old', registers'⟩ := registers.effect orderly effect
    refine ⟨Nat.le_trans grown grows, extended, fun id opened => ?_, registers'⟩
    rw [old' id (Nat.lt_of_lt_of_le opened grown), old id opened]
  · rintro t books ⟨grown, extended, old, registers⟩ store _ _
    refine ⟨by simpa only [store] using grown, extended, old, ?_, registers.checks⟩
    exact custody_closed store ▸ registers.custody.close

end Registers

theorem registers_ofSettings (id : Nat) (settings : Settings) (sink : Sink) :
    (ofSettings id settings sink).Registers fun _ => 0 where
  custody := custody_ofSettings id settings sink ▸ ⟨by simp, by simp⟩
  checks := by simp [ofSettings]

/-- The turn in which a health cycle draws the consequence of a check removes the slot of the
check, if it is still there and the verdict is against it, and does nothing else to slots. -/
theorem judge_removes {job : JobId} {j : Job} {round : Health.Round}
    (found : s.jobs.get? job = some j) (standing : j.stage = .checking round) (verdict : Verdict)
    (slot : SlotId) :
    let store := (s.perform (.signal job (.judge verdict))).books.store
    store.slots.get? slot = s.books.store.slots.get? slot ∨
      verdict.condemns = true ∧ slot = round.slot ∧ store.slots.get? slot = none := by
  have answered : j.respond s.books (.judge verdict) = some (j.judge round verdict) := by
    simp only [Job.respond, standing]
  let removal (deed : Books.Deed) : Prop :=
    verdict.condemns = true ∧ deed = .operate (.remove round.slot)
  have begun : Changes removal s.books { s.books with actor := some job } := .aside rfl rfl rfl
  have judged : Work.Goes removal (j.judge round verdict) { s.books with actor := some job } _ :=
    Job.judge_goes j round verdict s.books _ standing fun condemned => ⟨condemned, rfl⟩
  have turned := (begun.trans judged.changes).trans (j.turn_changes job _ s.books)
  simp only [perform, signalJob, found, answered]
  exact turned.removes slot

/-- A slot number that was given out stands for one resource in all that is to come, and does
not come back once its slot is gone. So a health cycle removes the very resource it has checked
or nothing, and a lease that ends changes at most its own slot, and nothing if the population
it was of is gone. -/
theorem slot_identity (id : Nat) (settings : Settings) (sink : Sink) (pre post : List Action) :
    let s := (ofSettings id settings sink).run pre
    let later := s.run post
    (∀ slot resource, s.Denotes slot resource → slot.number < s.books.store.nextId ∧
      ∀ other, later.Denotes slot other → other = resource) ∧
    (∀ slot, slot.number < s.books.store.nextId → s.books.store.slots.get? slot = none →
      later.books.store.slots.get? slot = none) ∧
    (∀ job j round verdict slot, s.jobs.get? job = some j → j.stage = .checking round →
      let store := (s.perform (.signal job (.judge verdict))).books.store
      store.slots.get? slot = s.books.store.slots.get? slot ∨
        verdict.condemns = true ∧ slot = round.slot ∧ store.slots.get? slot = none ∧
          ∀ entry, s.books.store.slots.get? slot = some entry →
            entry.resource = round.resource) ∧
    (∀ h l, s.leaseOf h = some l →
      s.custody.OwnAtMost h l (s.books.release l).store ∧
      s.custody.OwnAtMost h l (s.books.forget l).store ∧
      (l.generation ≠ s.books.store.generation →
        (s.books.release l).store = s.books.store ∧
        (s.books.forget l).store = s.books.store)) ∧
    ∀ id l, s.leases.get? id = some l →
      (s.perform (.dropLease id)).books.store = (s.books.release l).store ∧
      (s.perform (.detach id)).books.store = (s.books.forget l).store := by
  intro s later
  have initial := orderly_ofSettings id settings sink
  have orderly : s.Orderly := initial.run pre
  obtain ⟨register, _, registers⟩ := (registers_ofSettings id settings sink).run initial pre
  obtain ⟨extended, old, registers'⟩ := Registers.run registers orderly post
  refine ⟨?_, ?_, ?_, ?_, ?_⟩
  · intro slot resource denotes
    refine ⟨orderly.opened denotes, fun other denotes' => ?_⟩
    rw [← registers.denotes denotes, ← registers'.denotes denotes']
    exact old slot (orderly.opened denotes)
  · intro slot opened absent
    exact (orderly.lacks_run ⟨orderly.custody.sound, opened, absent⟩ post).absent
  · intro job j round verdict slot found standing store
    rcases judge_removes found standing verdict slot with same | ⟨condemned, rfl, gone⟩
    · exact Or.inl same
    · refine Or.inr ⟨condemned, rfl, gone, fun entry stored => ?_⟩
      rw [← registers.custody.members round.slot entry stored]
      exact registers.checks job j round found standing
  · intro h l holds
    rw [Books.store_release, Books.store_forget]
    exact ⟨orderly.custody.ownAtMost_release holds, orderly.custody.ownAtMost_remove holds,
      fun stale => ⟨orderly.custody.stale_release holds stale,
        orderly.custody.stale_remove holds stale⟩⟩
  · intro id l found
    simp only [perform, found]
    rw [Books.store_release, Books.store_forget]
    exact ⟨store_dropLease orderly id l, store_detachLease orderly id l⟩

/-- A health cycle and a lease that straddle a clearing leave the slot alone that has come
into the store since. -/
theorem slot_identity_across_clearing :
    let s := (ofSettings 1 { hasCheck := true } .accepting).run
      [.get, .get, .supply 0 .made, .supply 1 .made, .dropLease 2, .start .health,
        .signal 5 .run, .clear, .get, .supply 6 .made, .dropLease 7]
    s.leases.get? 3 = some ⟨1, some ⟨1⟩, 0⟩ ∧ s.books.store.members = [2] ∧
      (s.perform (.signal 5 (.judge .broken))).books.store.slots.get? ⟨2⟩ =
        s.books.store.slots.get? ⟨2⟩ ∧
      (s.perform (.detach 3)).books.store = s.books.store := by
  have identity := slot_identity 1 { hasCheck := true } .accepting
    [.get, .get, .supply 0 .made, .supply 1 .made, .dropLease 2, .start .health,
      .signal 5 .run, .clear, .get, .supply 6 .made, .dropLease 7] []
  obtain ⟨_, _, judged, ended, performed⟩ := identity
  refine ⟨by decide, by decide, ?_, ?_⟩
  · rcases judged 5 ⟨.health, true, .checking ⟨1, 1, ⟨0⟩, 0, []⟩⟩ ⟨1, 1, ⟨0⟩, 0, []⟩ .broken ⟨2⟩
      (by decide) rfl with same | ⟨_, other, _⟩
    · exact same
    · contradiction
  · have stale := (ended (.lease 3) ⟨1, some ⟨1⟩, 0⟩ (by decide)).2.2 (by decide)
    exact (performed 3 ⟨1, some ⟨1⟩, 0⟩ (by decide)).2.trans stale.2

end ResourcePool.System
