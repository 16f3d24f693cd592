import ResourcePool.Proofs.Custody.Origin
import ResourcePool.Proofs.System.Perform

/-! What every run keeps: the order of a pool and of what refers to it. -/
namespace ResourcePool.System
open Books (Changes)

variable {s t next : System} {a : Action}

/-- Closing the books empties the store and changes nothing else that matters. -/
theorem settle_cases (s : System) : s.settle = s ∨
    s.present = false ∧ (∀ id j, s.jobs.get? id = some j → j.isOver = true) ∧
      ∃ books : Books, s.settle = { s with closed := true, books } ∧
        books.store = { s.books.store with slots := {}, available := [] } ∧
        books.calls = s.books.calls ∧ books.journal = s.books.journal := by
  unfold settle
  split
  · rename_i due
    simp only [Bool.and_eq_true, Bool.not_eq_true', List.all_eq_true] at due
    obtain ⟨⟨absent, _⟩, finished⟩ := due
    obtain ⟨_, calls, journal⟩ := s.books.letGoAll_aside s.books.store.members
    exact Or.inr ⟨absent, fun id j found => finished j (Table.mem_values_of_get? found), _, rfl,
      rfl, calls, journal⟩
  · exact Or.inl rfl

theorem step_cases (s : System) (a : Action) : s.step a = s ∨ s.step a = (s.perform a).settle := by
  unfold step
  split
  · exact Or.inl rfl
  · exact Or.inr rfl

/-- The turn in which a job hears a signal that it waits for. -/
theorem step_signal {job : JobId} {j : Job} {signal : Signal} {work : Work Stage}
    (running : s.books.terminated = false) (found : s.jobs.get? job = some j)
    (answered : j.respond s.books signal = some work) :
    s.step (.signal job signal) =
      ({ s with
        books := (j.turn job work s.books).2,
        jobs := s.jobs.set job (j.turn job work s.books).1 } : System).settle := by
  simp only [step, running, perform, signalJob, found, answered]
  rfl

theorem run_append (s : System) (early late : List Action) :
    s.run (early ++ late) = (s.run early).run late := List.foldl_append ..

theorem run_concat (s : System) (actions : List Action) (a : Action) :
    s.run (actions ++ [a]) = (s.run actions).step a := List.foldl_concat ..

/-! ## Order is kept -/

/-- Once the books are closed nothing comes in any more. -/
theorem Orderly.barred (orderly : s.Orderly) (closed : s.closed = true)
    (operation : Store.Operation Resource) (resource : Resource) (generation : Nat)
    (warrant : s.Warrants a operation) : ¬ operation.Brings resource generation := by
  intro brings
  have absent := orderly.absent closed
  cases a with
  | supply c supply =>
      obtain ⟨_, _, found, _⟩ := warrant
      cases absent.symm.trans (orderly.present found rfl)
  | signal id signal =>
      obtain ⟨j, found, warrant⟩ := warrant
      have awake := Job.isOver_eq_false_of_brings (warrant.brings brings)
      cases awake.symm.trans (orderly.ended closed id j found)
  | clear =>
      subst warrant
      exact brings
  | _ => exact warrant

theorem Orderly.effect (orderly : s.Orderly) (effect : Effect s a next) : next.Orderly where
  custody := orderly.custody.steps effect.custody
  leases := by
    intro id l found
    rcases effect.leases id l found with ⟨l', before⟩ | new
    · exact Nat.lt_of_lt_of_le (orderly.leases id l' before) effect.fresh
    · exact new
  calls := by
    intro c call found
    rcases effect.calls c call found with before | ⟨new, _⟩
    · exact Nat.lt_of_lt_of_le (orderly.calls c call before) effect.fresh
    · exact new
  idle := by
    intro absent c call found
    rcases effect.present with same | ⟨_, idle⟩
    · rcases effect.calls c call found with before | ⟨_, waiting, _⟩
      · exact orderly.idle (same ▸ absent) c call before
      · cases waits : call.isWaiting with
        | false => rfl
        | true => cases (same.symm.trans absent).symm.trans (waiting waits)
    · exact idle c call found
  absent := by
    intro closed
    have absent := orderly.absent (effect.closed ▸ closed)
    rcases effect.present with same | ⟨gone, _⟩
    · exact same.trans absent
    · exact gone
  empty := by
    intro closed id
    have closed' := effect.closed ▸ closed
    cases found : next.books.store.slots.get? id with
    | none => rfl
    | some slot =>
        obtain ⟨before, stored⟩ := Custody.steps_origin orderly.custody effect.custody
          (orderly.barred closed') found
        cases (orderly.empty closed' id).symm.trans stored
  ended := by
    intro closed id j found
    have closed' := effect.closed ▸ closed
    rcases effect.jobs id j found with ⟨before, stored, _, stage⟩ | ⟨_, present⟩ |
      ⟨before, _, _, stored, awake, _⟩
    · have finished := orderly.ended closed' id before stored
      simp only [Job.isOver, stage] at finished
      exact finished
    · cases present.symm.trans (orderly.absent closed')
    · cases awake.symm.trans (orderly.ended closed' id before stored)
  checks := by
    intro id j round found standing
    have nextId : s.books.store.nextId ≤ next.books.store.nextId := by
      obtain ⟨history, _, store⟩ := effect.changes.history
      exact store ▸ orderly.custody.sound.nextId_le_after history
    have kept : ∀ before, s.jobs.get? id = some before → before.kind = j.kind →
        before.stage = .checking round →
        j.kind = .health ∧ round.slot.number < next.books.store.nextId := by
      intro before stored kind stage
      obtain ⟨health, opened⟩ := orderly.checks id before round stored stage
      exact ⟨kind ▸ health, Nat.lt_of_lt_of_le opened nextId⟩
    rcases effect.jobs id j found with ⟨before, stored, kind, stage⟩ | ⟨spawned, _⟩ |
      ⟨before, _, _, stored, _, kind, proceeds⟩
    · exact kept before stored kind (stage.trans standing)
    · cases standing.symm.trans spawned
    · rw [standing] at proceeds
      obtain ⟨health, locked⟩ := proceeds
      obtain ⟨slot, present, _⟩ := Store.lockAvailable_found locked
      have sound := (orderly.custody.steps effect.custody).sound
      refine ⟨?_, sound.opened round.slot slot present⟩
      rcases health with health | ⟨previous, checking⟩
      · exact kind ▸ health
      · exact kind ▸ (orderly.checks id before previous stored checking).1

theorem custody_closed {books : Books}
    (store : books.store = { s.books.store with slots := {}, available := [] }) :
    ({ s with closed := true, books } : System).custody = s.custody.close := by
  simp only [System.custody, store]
  rfl

theorem Orderly.settle (orderly : s.Orderly) : s.settle.Orderly := by
  rcases s.settle_cases with same | ⟨absent, finished, books, settled, store, _⟩
  · rw [same]
    exact orderly
  · rw [settled]
    exact { orderly with
      custody := custody_closed store ▸ orderly.custody.close
      absent := fun _ => absent
      empty := by simp [store]
      ended := fun _ => finished
      checks := by simpa only [store] using orderly.checks }

theorem Orderly.step (orderly : s.Orderly) (a : Action) : (s.step a).Orderly := by
  rcases step_cases s a with same | performed
  · rw [same]
    exact orderly
  · rw [performed]
    exact (orderly.effect (perform_effect orderly a)).settle

/-- What every effect keeps, and closing the books too, is kept by every step. -/
theorem Orderly.step_keeps {P : System → Prop} (orderly : s.Orderly) (holds : P s)
    (effect : ∀ next, Effect s a next → P next)
    (closing : ∀ (t : System) (books : Books), P t →
      books.store = { t.books.store with slots := {}, available := [] } →
      books.calls = t.books.calls → books.journal = t.books.journal →
      P { t with closed := true, books }) : P (s.step a) := by
  rcases step_cases s a with same | performed
  · rw [same]
    exact holds
  · have kept := effect _ (perform_effect orderly a)
    rw [performed]
    rcases (s.perform a).settle_cases with same | ⟨_, _, books, settled, store, calls, journal⟩
    · rw [same]
      exact kept
    · rw [settled]
      exact closing _ books kept store calls journal

/-- What every step from an orderly state keeps, every run keeps. -/
theorem Orderly.run_keeps {P : System → Prop} (orderly : s.Orderly) (holds : P s)
    (step : ∀ (t : System) (a : Action), t.Orderly → P t → P (t.step a))
    (actions : List Action) : P (s.run actions) := by
  induction actions generalizing s with
  | nil => exact holds
  | cons a rest ih => exact ih (orderly.step a) (step s a orderly holds)

theorem Orderly.run (orderly : s.Orderly) (actions : List Action) : (s.run actions).Orderly :=
  orderly.run_keeps orderly (fun _ a orderly _ => orderly.step a) actions

theorem custody_ofSettings (id : Nat) (settings : Settings) (sink : Sink) :
    (ofSettings id settings sink).custody = ⟨{}, fun _ => none⟩ := by
  have leaseOf : (ofSettings id settings sink).leaseOf = fun _ => none := by
    funext h
    cases h <;> rfl
  simp only [System.custody, leaseOf]
  rfl

theorem orderly_ofSettings (id : Nat) (settings : Settings) (sink : Sink) :
    (ofSettings id settings sink).Orderly where
  custody := custody_ofSettings id settings sink ▸ .empty
  leases := by simp [ofSettings]
  calls := by simp [ofSettings]
  idle := by simp [ofSettings]
  absent := by simp [ofSettings]
  empty := by simp [ofSettings]
  ended := by simp [ofSettings]
  checks := by simp [ofSettings]

end ResourcePool.System
