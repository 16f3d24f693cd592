import ResourcePool.Proofs.Jobs.Enabled

/-! What a start or a stop that returned has waited for. -/
namespace ResourcePool.System

variable {s t : System} {a : Action} {kind : JobKind} {c : CallId} {old : Option JobId}

/-- Whether a call was given up or came to another end than a good one. -/
def Lost (s : System) (c : CallId) : Prop :=
  ∃ call, s.calls.get? c = some call ∧ call.isWaiting = false ∧ call ≠ .finished .done

/-- How far a call has come that stops the job of a kind, or starts the next one: it waits for the
job that was registered, or it returned after this job ended. -/
inductive Replacing (t : System) (kind : JobKind) (c : CallId) (old : Option JobId) : Prop
  | waits {job : JobId} {after : AfterJoin} : old = some job →
      after = .start kind ∨ after = .stop [] →
      t.calls.get? c = some (.joining job after) → t.Replacing kind c old
  | returned : t.calls.get? c = some (.finished .done) →
      (∀ job, old = some job → ∃ j, t.jobs.get? job = some j ∧ j.isOver = true) →
      t.Replacing kind c old

/-- Whatever is registered under a kind is younger than a call. -/
def Vacated (t : System) (kind : JobKind) (c : CallId) : Prop :=
  ∀ job, t.registry.get? kind = some job → c ≤ job

/-- A call that is not lost takes off the registry what it waits for. -/
def Replaces (t : System) (kind : JobKind) (c : CallId) (old : Option JobId) : Prop :=
  t.Lost c ∨ t.Replacing kind c old ∧ t.Vacated kind c

namespace Vacated

theorem of_absent (absent : t.registry.get? kind = none) : t.Vacated kind c := fun job found => by
  cases absent.symm.trans found

theorem settle (vacated : s.Vacated kind c) : s.settle.Vacated kind c := by
  rw [Vacated, s.settle_registry.1]
  exact vacated

theorem step (orderly : s.Orderly) (staffed : s.Staffed) (fresh : c ≤ s.fresh)
    (vacated : s.Vacated kind c) (a : Action) : (s.step a).Vacated kind c := by
  intro job registered
  have turnover := Turnover.staffs staffed (step_staffs orderly staffed a)
  obtain same | ⟨_, new, late, found⟩ | ⟨_, none⟩ := turnover.registry kind
  · exact vacated job (same ▸ registered)
  · cases found.symm.trans registered
    exact Nat.le_trans fresh late
  · cases none.symm.trans registered

theorem disabled {job : JobId} {j : Job} (vacated : t.Vacated kind c) (staffed : t.Staffed)
    (older : job < c) (found : t.jobs.get? job = some j) (own : j.kind = kind) :
    j.enabled = false :=
  staffed.unregistered found fun registered =>
    Nat.not_le_of_lt older (vacated job (own ▸ registered))

end Vacated

theorem Lost.step (orderly : s.Orderly) (lost : s.Lost c) (a : Action) : (s.step a).Lost c := by
  obtain ⟨call, found, ended, apart⟩ := lost
  exact ⟨call, step_keeps_ended orderly found ended a, ended, apart⟩

theorem Turnover.isOver {hires strikes : JobKind → Prop} (turnover : Turnover hires strikes s t)
    {job : JobId} (isOver : ∃ j, s.jobs.get? job = some j ∧ j.isOver = true) :
    ∃ j, t.jobs.get? job = some j ∧ j.isOver = true := by
  obtain ⟨j, found, isOver⟩ := isOver
  obtain ⟨j', found', _, _, stage⟩ := turnover.jobs job j found
  exact ⟨j', found', (Job.isOver_congr (stage isOver)).trans isOver⟩

theorem Replaces.settle (replaces : s.Replaces kind c old) : s.settle.Replaces kind c old := by
  obtain ⟨_, jobs, _⟩ := s.settle_aside
  obtain ⟨_, _, calls⟩ := s.settle_registry
  obtain ⟨call, found, ended⟩ | ⟨replacing, vacated⟩ := replaces
  · exact Or.inl ⟨call, calls.symm ▸ found, ended⟩
  · refine Or.inr ⟨?_, vacated.settle⟩
    cases replacing with
    | waits same after found => exact .waits same after (calls.symm ▸ found)
    | returned found isOver => exact .returned (calls.symm ▸ found) (jobs.symm ▸ isOver)

/-- A call that starts or stops takes off what is registered, and waits for it. -/
theorem step_replaces (present : s.present = true) (running : s.books.terminated = false)
    (begins : a = .start kind ∨ a = .stop kind) :
    (s.step a).Replaces kind s.fresh (s.registry.get? kind) := by
  have struck {job : JobId} {next : System} {after : AfterJoin}
      (own : after = .start kind ∨ after = .stop [])
      (taken : s.newId.2.unregister kind = some (job, next)) :
      (next.setCall s.fresh (.joining job after)).Replaces kind s.fresh
        (s.registry.get? kind) := by
    obtain ⟨found, rfl⟩ := unregister_eq_some taken
    refine Or.inr ⟨.waits found own (get?_setCall ..), Vacated.of_absent ?_⟩
    exact Table.get?_erase_self ..
  have vacant {next : System} (absent : s.registry.get? kind = none)
      (vacated : next.Vacated kind s.fresh) :
      (next.finishCall s.fresh .done).Replaces kind s.fresh (s.registry.get? kind) := by
    refine Or.inr ⟨.returned (get?_setCall ..) fun job registered => ?_, vacated⟩
    cases absent.symm.trans registered
  obtain rfl | rfl := begins
  · rw [step_start present running]
    refine Replaces.settle ?_
    obtain ⟨failure, refused⟩ | ⟨absent, started⟩ | ⟨job, next, taken, waits⟩ :=
      s.newId.2.startJob_cases s.fresh kind
    · rw [refused]
      exact Or.inl ⟨_, get?_setCall .., rfl, by simp⟩
    · obtain ⟨_, _, spawned⟩ := s.newId.2.spawn_eq kind
      rw [started]
      refine vacant absent fun job registered => ?_
      rw [spawned, Table.get?_set_self] at registered
      cases registered
      exact Nat.le_succ _
    · rw [waits]
      exact struck (Or.inl rfl) taken
  · rw [step_stop present running]
    refine Replaces.settle ?_
    obtain ⟨absent, stopped⟩ | ⟨passed, other, rest, job, next, split, _, taken, stopped⟩ :=
      s.newId.2.stopEach_cases s.fresh [kind]
    · have none : s.registry.get? kind = none := absent kind (List.mem_singleton_self kind)
      rw [stopped]
      exact vacant none (Vacated.of_absent none)
    · obtain ⟨rfl, rfl, rfl⟩ : passed = [] ∧ kind = other ∧ rest = [] := by
        cases passed <;> simp_all
      rw [stopped]
      exact struck (Or.inr rfl) taken

theorem Replaces.step (orderly : s.Orderly) (staffed : s.Staffed) (fresh : c ≤ s.fresh)
    (replaces : s.Replaces kind c old) (a : Action) : (s.step a).Replaces kind c old := by
  have turnover := Turnover.staffs staffed (step_staffs orderly staffed a)
  obtain lost | ⟨replacing, vacated⟩ := replaces
  · exact Or.inl (lost.step orderly a)
  have vacated := vacated.step orderly staffed fresh a
  cases replacing with
  | returned found isOver =>
      exact Or.inr ⟨.returned (step_keeps_ended orderly found rfl a)
        fun job same => turnover.isOver (isOver job same), vacated⟩
  | @waits job after same next found =>
      obtain waits | cancelled | ⟨_, j, panic, stored, ended, resumed⟩ :=
        step_joining orderly found a
      · exact Or.inr ⟨.waits same next waits, vacated⟩
      · exact Or.inl ⟨_, cancelled, rfl, nofun⟩
      · have isOver : ∃ j, (s.step a).jobs.get? job = some j ∧ j.isOver = true :=
          turnover.isOver ⟨j, stored, by simp only [Job.isOver, ended]⟩
        have calls : (s.step a).calls = (s.afterJoin c panic after).calls :=
          resumed ▸ (settle_registry _).2.2
        cases panic with
        | some text =>
            refine Or.inl ⟨.finished (.failed (.join (Failure.ofPanic text))), ?_, rfl, by simp⟩
            rw [calls]
            exact get?_setCall ..
        | none =>
            refine Or.inr ⟨.returned ?_ fun other same' => ?_, vacated⟩
            · rw [calls]
              obtain rfl | rfl := next <;> exact get?_setCall ..
            · cases same.symm.trans same'
              exact isOver

/-! ## Returning -/

theorem step_fresh (orderly : s.Orderly) (staffed : s.Staffed) (a : Action) :
    s.fresh ≤ (s.step a).fresh := (Turnover.staffs staffed (step_staffs orderly staffed a)).fresh

/-- What every step keeps from the moment that a call begins. -/
theorem Orderly.run_keeps_since {P : System → Prop} (orderly : s.Orderly) (staffed : s.Staffed)
    (begins : P (s.step a))
    (step : ∀ t a, t.Orderly → t.Staffed → s.fresh ≤ t.fresh → P t → P (t.step a))
    (moves : List Action) : ((s.step a).run moves).Staffed ∧ P ((s.step a).run moves) := by
  obtain ⟨staffed, _, kept⟩ := (orderly.step a).run_keeps
    (P := fun t => t.Staffed ∧ s.fresh ≤ t.fresh ∧ P t)
    ⟨staffed.step orderly a, step_fresh orderly staffed a, begins⟩
    (fun t a orderly ⟨staffed, fresh, holds⟩ => ⟨staffed.step orderly a,
      Nat.le_trans fresh (step_fresh orderly staffed a), step t a orderly staffed fresh holds⟩)
    moves
  exact ⟨staffed, kept⟩

/-- When a start or a stop of a kind has returned well, the jobs of this kind that are older than
the call are disabled, and the one that was registered when the call began is over. One that had
been taken off the registry before may still be at its last cycle. -/
theorem disabled_on_return (id : Nat) (settings : Settings) (sink : Sink) (kind : JobKind)
    (a : Action) (begins : a = .start kind ∨ a = .stop kind) (before after : List Action) :
    let s := (ofSettings id settings sink).run before
    let t := (s.step a).run after
    s.present = true → s.books.terminated = false →
      t.calls.get? s.fresh = some (.finished .done) →
      ∀ job j, job < s.fresh → t.jobs.get? job = some j → j.kind = kind →
        j.enabled = false ∧ (s.registry.get? kind = some job → j.isOver = true) := by
  intro s t present running returned job j older found own
  have initial := orderly_ofSettings id settings sink
  have orderly : s.Orderly := initial.run before
  have staffed : s.Staffed := (staffed_ofSettings id settings sink).run initial before
  obtain ⟨staffed, replaces⟩ := orderly.run_keeps_since
    (P := fun t => t.Replaces kind s.fresh (s.registry.get? kind)) staffed
    (step_replaces present running begins)
    (fun _ a orderly staffed fresh replaces => replaces.step orderly staffed fresh a) after
  obtain ⟨call, ended, _, apart⟩ | ⟨replacing, vacated⟩ := replaces
  · exact False.elim (apart (Option.some.inj (ended.symm.trans returned)))
  refine ⟨vacated.disabled staffed older found own, fun registered => ?_⟩
  cases replacing with
  | waits _ _ waiting => cases waiting.symm.trans returned
  | returned _ isOver =>
      obtain ⟨j', found', isOver⟩ := isOver job registered
      cases found.symm.trans found'
      exact isOver

/-- The second of two starts that overlap returns at once, and two jobs are at their cycles. -/
theorem disabled_on_return_overlapping :
    let s := (ofSettings 1 { tuning := { minSpare := 1 } } .accepting).run
      [.start .keeper, .signal 1 .run, .start .keeper]
    let t := (s.step (.start .keeper)).run [.signal 4 .run]
    let batch : Keeper.Batch := ⟨1, 0, 1, [], [], []⟩
    let displaced : Job := ⟨.keeper, false, .creating batch⟩
    t.calls.get? 3 = some (.finished .done) ∧ t.jobs.get? 1 = some displaced ∧
      (displaced.enabled = false ∧ (s.registry.get? .keeper = some 1 → displaced.isOver = true)) ∧
      t.jobs.get? 4 = some ⟨.keeper, true, .creating batch⟩ := by
  refine ⟨by decide +kernel, by decide +kernel, disabled_on_return 1 _ .accepting .keeper _
    (Or.inl rfl) _ [.signal 4 .run] ?_ ?_ ?_ 1 _ ?_ ?_ rfl, by decide +kernel⟩
  all_goals decide +kernel

end ResourcePool.System
