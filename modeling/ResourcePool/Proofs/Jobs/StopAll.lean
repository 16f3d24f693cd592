import ResourcePool.Proofs.Jobs.Waiting

/-! What has been stopped when a call that stops all jobs returns. -/
namespace ResourcePool.System

variable {s t : System} {a : Action} {kind : JobKind} {c : CallId}
variable {kinds stopped rest : List JobKind}

/-! ## Stopping one kind after the other -/

/-- Where a call stands that stopped the jobs of some kinds and has others to go: it waits for the
last job that it stopped, or it came to its end, or a panic in this job cut it short. -/
inductive Halt (t : System) (c : CallId) (stopped rest : List JobKind) : Prop
  | waits {job : JobId} {j : Job} : t.calls.get? c = some (.joining job (.stop rest)) →
      t.jobs.get? job = some j → stopped.getLast? = some j.kind → t.Halt c stopped rest
  | done : t.calls.get? c = some (.finished .done) → rest = [] → t.Halt c stopped rest
  | fails {text : String} {job : JobId} {j : Job} :
      t.calls.get? c = some (.finished (.failed (.join (Failure.ofPanic text)))) →
      t.jobs.get? job = some j → stopped.getLast? = some j.kind → j.stage = .ended (some text) →
      t.Halt c stopped rest

/-- A call that was not given up has stopped the first of the kinds in its charge. -/
def Stopping (t : System) (c : CallId) (kinds : List JobKind) : Prop :=
  t.calls.get? c = some .cancelled ∨
    ∃ stopped rest, stopped ++ rest = kinds ∧ (∀ kind ∈ stopped, t.Vacated kind c) ∧
      t.Halt c stopped rest

theorem Stopping.settle (stopping : s.Stopping c kinds) : s.settle.Stopping c kinds := by
  obtain ⟨_, jobs, _⟩ := s.settle_aside
  obtain ⟨_, _, calls⟩ := s.settle_registry
  obtain cancelled | ⟨stopped, rest, split, vacated, halt⟩ := stopping
  · exact Or.inl (calls.symm ▸ cancelled)
  · refine Or.inr ⟨stopped, rest, split, fun kind member => (vacated kind member).settle, ?_⟩
    cases halt with
    | waits waiting found last => exact .waits (calls.symm ▸ waiting) (jobs.symm ▸ found) last
    | done returned none => exact .done (calls.symm ▸ returned) none
    | fails failed found last ended =>
        exact .fails (calls.symm ▸ failed) (jobs.symm ▸ found) last ended

/-- A call that goes on stops the next kind that has a registered job. -/
theorem stopEach_stopping (vacated : ∀ kind ∈ stopped, s.Vacated kind c) (staffed : s.Staffed)
    (kinds : List JobKind) : (s.stopEach c kinds).Stopping c (stopped ++ kinds) := by
  obtain ⟨absent, finished⟩ | ⟨passed, kind, rest, job, next, rfl, absent, taken, waits⟩ :=
    s.stopEach_cases c kinds
  · rw [finished]
    refine Or.inr ⟨stopped ++ kinds, [], List.append_nil _, ?_, .done (get?_setCall ..) rfl⟩
    intro other member
    obtain earlier | passed := List.mem_append.mp member
    · exact vacated other earlier
    · exact Vacated.of_absent (absent other passed)
  · obtain ⟨registered, rfl⟩ := unregister_eq_some taken
    obtain ⟨j, found, rfl⟩ := staffed.registered kind job registered
    rw [waits]
    have asked : (s.disable job).jobs.get? job = some (j.askIf (job = job)) := by
      rw [get?_disable, found, Option.map_some]
    refine Or.inr ⟨stopped ++ passed ++ [j.kind], rest, by simp, ?_,
      .waits (get?_setCall ..) asked List.getLast?_concat⟩
    intro other member id entry
    obtain ⟨other_ne, entry⟩ : j.kind ≠ other ∧ s.registry.get? other = some id := by
      by_cases same : j.kind = other
      · cases ((Table.get?_erase ..).trans (if_pos same)).symm.trans entry
      · exact ⟨same, (Table.get?_erase_of_ne _ same).symm.trans entry⟩
    obtain earlier | last := List.mem_append.mp member
    · obtain before | between := List.mem_append.mp earlier
      · exact vacated other before id entry
      · cases (absent other between).symm.trans entry
    · exact False.elim (other_ne (List.mem_singleton.mp last).symm)

theorem Stopping.step (orderly : s.Orderly) (staffed : s.Staffed) (fresh : c ≤ s.fresh)
    (stopping : s.Stopping c kinds) (a : Action) : (s.step a).Stopping c kinds := by
  have turnover := Turnover.staffs staffed (step_staffs orderly staffed a)
  obtain cancelled | ⟨stopped, rest, split, vacated, halt⟩ := stopping
  · exact Or.inl (step_keeps_ended orderly cancelled rfl a)
  have vacated' : ∀ kind ∈ stopped, (s.step a).Vacated kind c := fun kind member =>
    (vacated kind member).step orderly staffed fresh a
  cases halt with
  | done returned none =>
      exact Or.inr ⟨stopped, rest, split, vacated',
        .done (step_keeps_ended orderly returned rfl a) none⟩
  | fails failed found last ended =>
      obtain ⟨j', found', own, _, stage⟩ := turnover.jobs _ _ found
      have kept := stage (by simp only [Job.isOver, ended])
      exact Or.inr ⟨stopped, rest, split, vacated', .fails (step_keeps_ended orderly failed rfl a)
        found' (own ▸ last) (kept.trans ended)⟩
  | waits waiting found last =>
      obtain ⟨j', found', own, _, stage⟩ := turnover.jobs _ _ found
      obtain waits | cancelled | ⟨_, j, panic, stored, ended, resumed⟩ :=
        step_joining orderly waiting a
      · exact Or.inr ⟨stopped, rest, split, vacated', .waits waits found' (own ▸ last)⟩
      · exact Or.inl cancelled
      · cases found.symm.trans stored
        cases panic with
        | some text =>
            have kept := stage (by simp only [Job.isOver, ended])
            refine Or.inr ⟨stopped, rest, split, vacated',
              .fails ?_ found' (own ▸ last) (kept.trans ended)⟩
            rw [resumed, (settle_registry _).2.2]
            exact get?_setCall ..
        | none =>
            rw [resumed, ← split]
            exact (stopEach_stopping vacated staffed rest).settle

/-! ## Kinds that nobody starts -/

/-- Where no start of a kind begins or waits, no other job of this kind is registered. -/
theorem registry_unbegun (orderly : s.Orderly) (staffed : s.Staffed)
    (unbegun : s.begun kind a = none) (unawaited : ∀ c, ¬ s.AwaitsStart kind c) {job : JobId}
    (registered : (s.step a).registry.get? kind = some job) :
    s.registry.get? kind = some job := by
  have turnover := Turnover.staffs staffed (step_staffs orderly staffed a)
  obtain same | ⟨hires, _⟩ | ⟨_, none⟩ := turnover.registry kind
  · exact same ▸ registered
  · cases a with
    | start other =>
        obtain ⟨rfl, present⟩ := hires
        exact step_unbegun unbegun present ▸ registered
    | resume c =>
        obtain ⟨job, waits⟩ := hires
        exact False.elim (unawaited c ⟨job, waits⟩)
    | _ => exact False.elim hires
  · cases none.symm.trans registered

theorem registry_unstarted (orderly : s.Orderly) (staffed : s.Staffed)
    (unawaited : ∀ c, ¬ s.AwaitsStart kind c) (moves : List Action)
    (none : s.starts kind moves = []) {job : JobId}
    (registered : (s.run moves).registry.get? kind = some job) :
    s.registry.get? kind = some job := by
  induction moves generalizing s with
  | nil => exact registered
  | cons a moves ih =>
      obtain ⟨first, later⟩ := List.append_eq_nil_iff.mp none
      have unbegun := Option.toList_eq_nil_iff.mp first
      exact registry_unbegun orderly staffed unbegun unawaited
        (ih (orderly.step a) (staffed.step orderly a)
          (fun c awaits => unawaited c (awaits.of_step orderly unbegun)) later registered)

/-- A kind that was vacated after a call began, and that nobody starts, has no registered job. -/
theorem registry_vacated (orderly : s.Orderly) (staffed : s.Staffed) (moves : List Action)
    (none : s.awaiting kind = []) (unstarted : s.starts kind moves = [])
    (vacated : (s.run moves).Vacated kind s.fresh) :
    (s.run moves).registry.get? kind = .none := by
  have unawaited (c : CallId) (awaits : s.AwaitsStart kind c) : False :=
    List.not_mem_nil (none ▸ mem_awaiting.mpr awaits)
  cases registered : (s.run moves).registry.get? kind with
  | none => rfl
  | some job =>
      have earlier := registry_unstarted orderly staffed unawaited moves unstarted registered
      obtain ⟨j, found, _⟩ := staffed.registered kind job earlier
      have older : job < s.fresh := staffed.numbered job j found
      exact False.elim (Nat.not_le_of_lt older (vacated job registered))

/-! ## Returning -/

/-- When a call that stops all jobs has returned, with or without an error, the kinds that it has
come to are stopped: no job that is older than the call is enabled, and none is registered or
enabled at all where no start was under way or began. It has come to all kinds when it returned
well, and else to those up to the one whose job ended in a panic. -/
theorem stopAll_stops (id : Nat) (settings : Settings) (sink : Sink) (outcome : Outcome)
    (before after : List Action) :
    let s := (ofSettings id settings sink).run before
    let t := (s.step .stopAll).run after
    s.present = true → s.books.terminated = false →
      t.calls.get? s.fresh = some (.finished outcome) →
      ∃ stopped rest, stopped ++ rest = JobKind.all ∧
        (outcome = .done ∧ rest = [] ∨
          ∃ text job j, outcome = .failed (.join (Failure.ofPanic text)) ∧
            t.jobs.get? job = some j ∧ stopped.getLast? = some j.kind ∧
            j.stage = .ended (some text)) ∧
        ∀ kind ∈ stopped,
          (∀ job j, job < s.fresh → t.jobs.get? job = some j → j.kind = kind →
            j.enabled = false) ∧
          (s.awaiting kind = [] → (s.step .stopAll).starts kind after = [] →
            t.registry.get? kind = none ∧
              ∀ job j, t.jobs.get? job = some j → j.kind = kind → j.enabled = false) := by
  intro s t present running returned
  have initial := orderly_ofSettings id settings sink
  have orderly : s.Orderly := initial.run before
  have staffed : s.Staffed := (staffed_ofSettings id settings sink).run initial before
  have begins : (s.step .stopAll).Stopping s.fresh JobKind.all := by
    have counted : s.newId.2.Staffed := staffed.aside rfl rfl rfl (Nat.le_succ _)
    rw [step_stopAll present running]
    exact (stopEach_stopping (fun _ none => False.elim (List.not_mem_nil none)) counted _).settle
  obtain ⟨staffed', cancelled | ⟨stopped, rest, split, vacated, halt⟩⟩ :=
    orderly.run_keeps_since (P := fun t => t.Stopping s.fresh JobKind.all) staffed begins
      (fun _ a orderly staffed fresh stopping => stopping.step orderly staffed fresh a) after
  · cases cancelled.symm.trans returned
  refine ⟨stopped, rest, split, ?_, fun kind member => ⟨fun job j older found own =>
    (vacated kind member).disabled staffed' older found own, fun none unstarted => ?_⟩⟩
  · cases halt with
    | waits waiting => cases waiting.symm.trans returned
    | done ended none =>
        cases ended.symm.trans returned
        exact Or.inl ⟨rfl, none⟩
    | @fails text job j ended found last panicked =>
        cases ended.symm.trans returned
        exact Or.inr ⟨text, job, j, rfl, found, last, panicked⟩
  · have absent : t.registry.get? kind = .none := registry_vacated orderly staffed
      (.stopAll :: after) none unstarted (vacated kind member)
    refine ⟨absent, fun job j found own => staffed'.unregistered found fun registered => ?_⟩
    cases absent.symm.trans (own ▸ registered)

/-- The check of the health job panicked: the management job stays enabled and registered. -/
theorem stopAll_stops_panicked :
    let s := (ofSettings 1 { hasCheck := true, policy := some (.custom "p") } .accepting).run
      [.get, .supply 0 .made, .dropLease 1, .start .health, .start .management,
        .signal 3 .run, .signal 3 (.judge (.panicked "bad check"))]
    let t := (s.step .stopAll).run [.resume 6]
    t.calls.get? 6 = some (.finished (.failed (.join (Failure.ofPanic "bad check")))) ∧
      (∃ stopped rest, stopped ++ rest = JobKind.all ∧ stopped ≠ JobKind.all ∧
        ∀ kind ∈ stopped, t.registry.get? kind = none) ∧
      t.registry.get? .management = some 5 ∧
      t.jobs.get? 5 = some ⟨.management, true, .spawned⟩ := by
  refine ⟨by decide +kernel, ?_, by decide +kernel, by decide +kernel⟩
  obtain ⟨stopped, rest, split, _, halted⟩ := stopAll_stops 1
    { hasCheck := true, policy := some (.custom "p") } .accepting
    (.failed (.join (Failure.ofPanic "bad check")))
    [.get, .supply 0 .made, .dropLease 1, .start .health, .start .management,
      .signal 3 .run, .signal 3 (.judge (.panicked "bad check"))]
    [.resume 6] (by decide +kernel) (by decide +kernel) (by decide +kernel)
  have absent := fun kind member => ((halted kind member).2
    (by cases kind <;> decide +kernel) (by cases kind <;> decide +kernel)).1
  refine ⟨stopped, rest, split, ?_, absent⟩
  rintro rfl
  exact absurd (absent .management (by decide)) (by decide +kernel)

end ResourcePool.System
