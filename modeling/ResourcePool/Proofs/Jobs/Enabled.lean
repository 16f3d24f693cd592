import ResourcePool.Proofs.Jobs.Calls

/-! At most one job of a kind is enabled, whatever starts and stops overlap. -/
namespace ResourcePool.System

variable {s : System} {a : Action} {kind : JobKind} {c : CallId} {moves : List Action}

/-! ## Starts -/

/-- The call that an action begins in order to start a job of a kind. -/
def begun (s : System) (kind : JobKind) : Action → Option CallId
  | .start other =>
      if other = kind ∧ s.present = true ∧ s.books.terminated = false then some s.fresh else none
  | _ => none

/-- The calls that start a job of a kind in the course of actions. -/
def starts (s : System) (kind : JobKind) : List Action → List CallId
  | [] => []
  | a :: rest => (s.begun kind a).toList ++ (s.step a).starts kind rest

/-- Whether a call waits for a job to end before it starts the next one of a kind. -/
def AwaitsStart (s : System) (kind : JobKind) (c : CallId) : Prop :=
  ∃ job, s.calls.get? c = some (.joining job (.start kind))

/-- The calls that wait for a job to end before they start the next one of a kind. -/
def awaiting (s : System) (kind : JobKind) : List CallId :=
  s.calls.keys.filter fun c =>
    match s.calls.get? c with
    | some (.joining _ (.start other)) => other = kind
    | _ => false

theorem mem_awaiting : c ∈ s.awaiting kind ↔ s.AwaitsStart kind c := by
  rw [awaiting, List.mem_filter, Table.mem_keys_iff]
  constructor
  · rintro ⟨_, waits⟩
    split at waits
    · rename_i job other found
      exact ⟨job, of_decide_eq_true waits ▸ found⟩
    · contradiction
  · rintro ⟨job, found⟩
    exact ⟨⟨_, found⟩, by simp only [found, decide_true]⟩

/-- Nothing stops jobs of a kind in the course of actions. -/
def spared (s : System) (kind : JobKind) : List Action → Bool
  | [] => true
  | a :: rest => !s.stops kind a && (s.step a).spared kind rest

/-- How a start stands: its job is there, it waits for the one before, or it failed. -/
def Starting (s : System) (kind : JobKind) (c : CallId) : Prop :=
  s.Occupied kind ∨ s.AwaitsStart kind c ∨
    ∃ failure, s.calls.get? c = some (.finished (.failed failure))

theorem occupied_spawn (s : System) (kind : JobKind) : (s.spawn kind).Occupied kind := by
  obtain ⟨vacated, _, spawned⟩ := s.spawn_eq kind
  rw [spawned]
  exact ⟨s.fresh, { kind }, Table.get?_set_self ..,
    Table.get?_set_self .., rfl⟩

theorem startJob_starting (s : System) (c : CallId) (kind : JobKind) :
    (s.startJob c kind).Starting kind c := by
  obtain ⟨failure, refused⟩ | ⟨_, started⟩ | ⟨job, next, _, waits⟩ := s.startJob_cases c kind
  · rw [refused]
    exact Or.inr (Or.inr ⟨failure, get?_setCall ..⟩)
  · rw [started]
    exact Or.inl (s.occupied_spawn kind)
  · rw [waits]
    exact Or.inr (Or.inl ⟨job, get?_setCall ..⟩)

theorem Starting.settle (starting : s.Starting kind c) : s.settle.Starting kind c := by
  obtain ⟨_, jobs, _⟩ := s.settle_aside
  obtain ⟨registry, _, calls⟩ := s.settle_registry
  rw [Starting, Occupied, AwaitsStart, jobs, registry, calls]
  exact starting

/-- A start that begins takes a job off the registry or puts one there. -/
theorem step_begun (begins : s.begun kind a = some c) : (s.step a).Starting kind c := by
  cases a with
  | start other =>
      simp only [begun, Option.ite_none_right_eq_some, Option.some.injEq] at begins
      obtain ⟨⟨rfl, present, running⟩, rfl⟩ := begins
      rw [step_start present running]
      exact (startJob_starting _ _ _).settle
  | _ => contradiction

/-- A start that waits goes on waiting, is given up, or comes to its end. -/
theorem AwaitsStart.step (orderly : s.Orderly) (awaits : s.AwaitsStart kind c) (a : Action) :
    (s.step a).Starting kind c ∨ (s.step a).calls.get? c = some .cancelled := by
  obtain ⟨job, found⟩ := awaits
  obtain waits | cancelled | ⟨_, j, panic, _, _, resumed⟩ := step_joining orderly found a
  · exact Or.inl (Or.inr (Or.inl ⟨job, waits⟩))
  · exact Or.inr cancelled
  · refine Or.inl ?_
    rw [resumed]
    refine Starting.settle ?_
    cases panic with
    | some text => exact Or.inr (Or.inr ⟨_, get?_setCall ..⟩)
    | none => exact Or.inl (s.occupied_spawn kind)

/-- A start that callers of the pool cannot begin any more does nothing. -/
theorem step_unbegun (unbegun : s.begun kind (.start kind) = none) (present : s.present = true) :
    s.step (.start kind) = s := by
  cases running : s.books.terminated with
  | true => exact step_eq_self running _
  | false =>
      have begun : s.begun kind (.start kind) = some s.fresh := if_pos ⟨rfl, present, running⟩
      cases unbegun.symm.trans begun

/-- Where no start begins, only starts that waited before do so after. -/
theorem AwaitsStart.of_step (orderly : s.Orderly) (unbegun : s.begun kind a = none)
    (awaits : (s.step a).AwaitsStart kind c) : s.AwaitsStart kind c := by
  obtain ⟨job, found⟩ := awaits
  obtain earlier | ⟨present, rfl, _⟩ := (step_records orderly a).starting_origin found
  · exact ⟨job, earlier⟩
  · exact ⟨job, step_unbegun unbegun present ▸ found⟩

/-- A job of a kind stays where nothing stops it, or a start takes its place. -/
theorem Occupied.step (orderly : s.Orderly) (staffed : s.Staffed) (occupied : s.Occupied kind)
    (spared : s.stops kind a = false) :
    (s.step a).Occupied kind ∨ ∃ c, s.begun kind a = some c := by
  have turnover := Turnover.staffs staffed (step_staffs orderly staffed a)
  obtain kept | stopped | rfl := turnover.occupied kind occupied
  · exact Or.inl kept
  · cases spared.symm.trans stopped
  · cases begins : s.begun kind (.start kind) with
    | some c => exact Or.inr ⟨c, rfl⟩
    | none =>
        have present : s.present = true := by
          obtain ⟨job, j, _, found, enabled⟩ := occupied
          cases present : s.present with
          | true => rfl
          | false => cases (staffed.absent present job j found).symm.trans enabled
        exact Or.inl ((step_unbegun begins present).symm ▸ occupied)

/-! ## Runs -/

theorem Staffed.step (orderly : s.Orderly) (staffed : s.Staffed) (a : Action) :
    (s.step a).Staffed := staffed.staffs (step_staffs orderly staffed a)

theorem run_keeps_ended {call : Call} (orderly : s.Orderly) (found : s.calls.get? c = some call)
    (ended : call.isWaiting = false) (moves : List Action) :
    (s.run moves).calls.get? c = some call :=
  orderly.run_keeps (P := fun t => t.calls.get? c = some call) found
    (fun _ a orderly found => step_keeps_ended orderly found ended a) moves

/-- Starts that all return well leave a job behind, whichever of them came last. -/
theorem occupied_run {mine : CallId → Prop} (orderly : s.Orderly) (staffed : s.Staffed)
    (spared : s.spared kind moves = true) (begins : ∀ c ∈ s.starts kind moves, mine c)
    (ends : ∀ c, mine c → (s.run moves).calls.get? c = some (.finished .done))
    (any : s.Occupied kind ∨ (∃ c, mine c ∧ s.AwaitsStart kind c) ∨ ∃ c, c ∈ s.starts kind moves) :
    (s.run moves).Occupied kind := by
  -- a start that is under way, or still to begin, makes up for a job that was taken off
  induction moves generalizing s with
  | nil =>
      obtain occupied | ⟨c, own, job, waits⟩ | ⟨c, member⟩ := any
      · exact occupied
      · cases (ends c own).symm.trans waits
      · contradiction
  | cons a rest ih =>
      obtain ⟨unstopped, spared⟩ := Bool.and_eq_true_iff.mp spared
      rw [Bool.not_eq_true'] at unstopped
      have next := orderly.step a
      have staffed' := staffed.step orderly a
      have later : ∀ c ∈ (s.step a).starts kind rest, mine c := fun c member =>
        begins c (List.mem_append_right _ member)
      have onward (c : CallId) (own : mine c) (starting : (s.step a).Starting kind c) :
          ((s.step a).run rest).Occupied kind := by
        obtain occupied | awaits | ⟨failure, failed⟩ := starting
        · exact ih next staffed' spared later ends (Or.inl occupied)
        · exact ih next staffed' spared later ends (Or.inr (Or.inl ⟨c, own, awaits⟩))
        · cases (run_keeps_ended next failed rfl rest).symm.trans (ends c own)
      have opened (c : CallId) (begun : s.begun kind a = some c) :
          ((s.step a).run rest).Occupied kind := by
        have own : mine c := begins c (List.mem_append_left _ (Option.mem_toList.mpr begun))
        exact onward c own (step_begun begun)
      obtain occupied | ⟨c, own, awaits⟩ | ⟨c, member⟩ := any
      · obtain kept | ⟨c, begun⟩ := occupied.step orderly staffed unstopped
        · exact ih next staffed' spared later ends (Or.inl kept)
        · exact opened c begun
      · obtain starting | cancelled := awaits.step orderly a
        · exact onward c own starting
        · cases (run_keeps_ended next cancelled rfl rest).symm.trans (ends c own)
      · obtain first | member := List.mem_append.mp member
        · exact opened c (Option.mem_toList.mp first)
        · exact ih next staffed' spared later ends (Or.inr (Or.inr ⟨c, member⟩))

/-! ## Moves -/

/-- What can happen to the jobs of a pool: any action, and that all of them are asked to stop. -/
inductive Move where
  | act (a : Action)
  | disableAll

def move (s : System) : Move → System
  | .act a => s.step a
  | .disableAll => s.disableAll

def moved (s : System) (moves : List Move) : System := moves.foldl move s

theorem moved_keeps (orderly : s.Orderly) (staffed : s.Staffed) (moves : List Move) :
    (s.moved moves).Orderly ∧ (s.moved moves).Staffed := by
  induction moves generalizing s with
  | nil => exact ⟨orderly, staffed⟩
  | cons m rest ih =>
      cases m with
      | act a => exact ih (orderly.step a) (staffed.step orderly a)
      | disableAll =>
          have asked : Effect s (.pass 0) s.disableAll := .quiet (.disableAll s)
          exact ih (orderly.effect asked) staffed.disableAll

namespace Staffed

theorem enabled_eq {job job' : JobId} {j j' : Job} (staffed : s.Staffed)
    (found : s.jobs.get? job = some j) (found' : s.jobs.get? job' = some j')
    (enabled : j.enabled = true) (enabled' : j'.enabled = true) (same : j.kind = j'.kind) :
    job = job' := by
  have registered := staffed.enabled job j found enabled
  rw [same, staffed.enabled job' j' found' enabled'] at registered
  exact (Option.some.inj registered).symm

theorem run (orderly : s.Orderly) (staffed : s.Staffed) (actions : List Action) :
    (s.run actions).Staffed :=
  orderly.run_keeps (P := Staffed) staffed
    (fun _ a orderly staffed => staffed.step orderly a) actions

theorem existsUnique (staffed : s.Staffed) (occupied : s.Occupied kind) :
    ∃! job, ∃ j, s.jobs.get? job = some j ∧ j.kind = kind ∧ j.enabled = true := by
  obtain ⟨job, j, registered, found, enabled⟩ := occupied
  obtain ⟨j', found', own⟩ := staffed.registered kind job registered
  cases found.symm.trans found'
  refine ⟨job, ⟨j, found, own, enabled⟩, ?_⟩
  rintro other ⟨j', found', own', enabled'⟩
  exact staffed.enabled_eq found' found enabled' enabled (own'.trans own.symm)

end Staffed

/-- After any moves every enabled job is the one registered under its kind, so at most one of a
kind is enabled. Where starts of a kind are under way or begin, nothing stops jobs of this kind,
and all these starts return well, exactly one is enabled in the end. None is enabled once all were
asked to stop, and none while callers do not have the pool any more. -/
theorem one_enabled (id : Nat) (settings : Settings) (sink : Sink) (moves : List Move) :
    let s := (ofSettings id settings sink).moved moves
    (∀ job j, s.jobs.get? job = some j → j.enabled = true →
        s.registry.get? j.kind = some job) ∧
      (∀ job job' j j', s.jobs.get? job = some j → s.jobs.get? job' = some j' →
        j.enabled = true → j'.enabled = true → j.kind = j'.kind → job = job') ∧
      (∀ kind actions, s.spared kind actions = true →
        s.awaiting kind ++ s.starts kind actions ≠ [] →
        (∀ c ∈ s.awaiting kind ++ s.starts kind actions,
          (s.run actions).calls.get? c = some (.finished .done)) →
        ∃! job, ∃ j, (s.run actions).jobs.get? job = some j ∧ j.kind = kind ∧
          j.enabled = true) ∧
      (∀ job j, s.disableAll.jobs.get? job = some j → j.enabled = false) ∧
      (s.present = false → ∀ job j, s.jobs.get? job = some j → j.enabled = false) := by
  intro s
  obtain ⟨orderly, staffed⟩ := moved_keeps (orderly_ofSettings id settings sink)
    (staffed_ofSettings id settings sink) moves
  refine ⟨staffed.enabled, fun _ _ _ _ => staffed.enabled_eq, ?_, staffed.disabled, staffed.absent⟩
  intro kind actions spared any ends
  have under : (∃ c, c ∈ s.awaiting kind ++ s.starts kind actions ∧ s.AwaitsStart kind c) ∨
      ∃ c, c ∈ s.starts kind actions := by
    obtain ⟨c, member⟩ := List.exists_mem_of_ne_nil _ any
    obtain waits | starts := List.mem_append.mp member
    · exact Or.inl ⟨c, member, mem_awaiting.mp waits⟩
    · exact Or.inr ⟨c, starts⟩
  exact (staffed.run orderly actions).existsUnique (occupied_run orderly staffed spared
    (fun c => List.mem_append_right _) ends (Or.inr under))

/-- Two starts overlap: the first one waits for the job that was there, and the second one finds
the entry empty. The job that stays is that of the first one. -/
theorem one_enabled_overlapping :
    let s := (ofSettings 1 {} .accepting).moved [.act (.start .keeper)]
    let actions := [.start .keeper, .start .keeper, .signal 1 .run, .resume 2]
    s.starts .keeper actions = [2, 3] ∧
      (∃! job, ∃ j, (s.run actions).jobs.get? job = some j ∧ j.kind = .keeper ∧
        j.enabled = true) ∧
      (s.run actions).jobs.get? 5 = some ⟨.keeper, true, .spawned⟩ := by
  refine ⟨by decide +kernel, (one_enabled 1 {} .accepting [.act (.start .keeper)]).2.2.1 .keeper
    _ ?_ ?_ ?_, by decide +kernel⟩
  all_goals decide +kernel

end ResourcePool.System
