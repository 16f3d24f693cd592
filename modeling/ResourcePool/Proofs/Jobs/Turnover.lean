import ResourcePool.Proofs.Jobs.Registry

/-! What the jobs and the registry keep when some kinds may be hired and others struck off. -/
namespace ResourcePool.System

variable {s t next : System} {job : JobId} {j : Job} {kind : JobKind}

/-- Whether the job that is registered under a kind is enabled. -/
def Occupied (s : System) (kind : JobKind) : Prop :=
  ∃ job j, s.registry.get? kind = some job ∧ s.jobs.get? job = some j ∧ j.enabled = true

/-- What the jobs and the registry keep. -/
structure Turnover (hires strikes : JobKind → Prop) (s next : System) : Prop where
  fresh : s.fresh ≤ next.fresh
  /-- No job disappears, none is enabled again, and one that is over stays as it ended. -/
  jobs : ∀ job j, s.jobs.get? job = some j → ∃ j', next.jobs.get? job = some j' ∧
    j'.kind = j.kind ∧ (j'.enabled = true → j.enabled = true) ∧
    (j.isOver = true → j'.stage = j.stage)
  new : ∀ job j, next.jobs.get? job = some j → s.fresh ≤ job ∨ ∃ j', s.jobs.get? job = some j'
  registry : ∀ kind, next.registry.get? kind = s.registry.get? kind ∨
    hires kind ∧ (∃ job, s.fresh ≤ job ∧ next.registry.get? kind = some job) ∨
    strikes kind ∧ next.registry.get? kind = none
  occupied : ∀ kind, s.Occupied kind → next.Occupied kind ∨ strikes kind

namespace Turnover
variable {hires strikes : JobKind → Prop}

theorem aside (jobs : next.jobs = s.jobs) (registry : next.registry = s.registry)
    (fresh : s.fresh ≤ next.fresh) : Turnover hires strikes s next where
  fresh := fresh
  jobs := fun job j found => ⟨j, jobs ▸ found, rfl, id, fun _ => rfl⟩
  new := fun job j found => Or.inr ⟨j, jobs ▸ found⟩
  registry := fun kind => Or.inl (registry ▸ rfl)
  occupied := by
    rintro kind ⟨job, j, registered, found, enabled⟩
    exact Or.inl ⟨job, j, registry ▸ registered, jobs ▸ found, enabled⟩

theorem trans (first : Turnover hires strikes s t) (second : Turnover hires strikes t next) :
    Turnover hires strikes s next where
  fresh := Nat.le_trans first.fresh second.fresh
  jobs := by
    intro job j found
    obtain ⟨middle, stored, kind, enabled, stage⟩ := first.jobs job j found
    obtain ⟨last, stored', kind', enabled', stage'⟩ := second.jobs job middle stored
    refine ⟨last, stored', kind'.trans kind, enabled ∘ enabled', fun isOver => ?_⟩
    have same := stage isOver
    exact (stage' ((Job.isOver_congr same).trans isOver)).trans same
  new := by
    intro job j found
    obtain late | ⟨middle, stored⟩ := second.new job j found
    · exact Or.inl (Nat.le_trans first.fresh late)
    · exact first.new job middle stored
  registry := by
    intro kind
    obtain same | ⟨hires, job, late, found⟩ | struck := second.registry kind
    · rw [same]
      exact first.registry kind
    · exact Or.inr (Or.inl ⟨hires, job, Nat.le_trans first.fresh late, found⟩)
    · exact Or.inr (Or.inr struck)
  occupied := by
    intro kind occupied
    obtain middle | struck := first.occupied kind occupied
    · exact second.occupied kind middle
    · exact Or.inr struck

theorem progress (found : s.jobs.get? job = some j) (unfinished : j.isOver = false)
    (stage : Stage) :
    Turnover hires strikes s { s with jobs := s.jobs.set job { j with stage } } := by
  have later : ∀ id before, s.jobs.get? id = some before →
      ∃ j', (s.jobs.set job { j with stage }).get? id = some j' ∧ j'.kind = before.kind ∧
        j'.enabled = before.enabled ∧ (before.isOver = true → j'.stage = before.stage) := by
    intro id before earlier
    by_cases same : job = id
    · subst same
      cases found.symm.trans earlier
      exact ⟨{ j with stage }, Table.get?_set_self .., rfl, rfl,
        fun isOver => by cases unfinished.symm.trans isOver⟩
    · exact ⟨before, (Table.get?_set_of_ne _ _ same).trans earlier, rfl, rfl,
        fun _ => rfl⟩
  constructor
  · exact Nat.le_refl _
  · intro id before earlier
    obtain ⟨j', stored, kind, enabled, stage⟩ := later id before earlier
    exact ⟨j', stored, kind, fun flag => enabled ▸ flag, stage⟩
  · intro id j' stored
    rw [Table.get?_set] at stored
    split at stored
    · rename_i same
      exact Or.inr ⟨j, same ▸ found⟩
    · exact Or.inr ⟨j', stored⟩
  · exact fun kind => Or.inl rfl
  · rintro kind ⟨id, before, registered, earlier, enabled⟩
    obtain ⟨j', stored, _, flag, _⟩ := later id before earlier
    exact Or.inl ⟨id, j', registered, stored, flag.trans enabled⟩

/-- Jobs that were asked to stop lose nothing but their flag. -/
theorem asked {jobs : Table JobId Job} {registry : Table JobKind JobId} {asked : JobId → Prop}
    [DecidablePred asked]
    (stored : ∀ id, jobs.get? id = (s.jobs.get? id).map (Job.askIf (asked id)))
    (entries : ∀ kind, registry.get? kind = s.registry.get? kind ∨
      strikes kind ∧ registry.get? kind = none)
    (spared : ∀ kind id, s.registry.get? kind = some id →
      registry.get? kind = some id ∧ ¬ asked id ∨ strikes kind) :
    Turnover hires strikes s { s with jobs, registry } where
  fresh := Nat.le_refl _
  jobs := by
    intro id j found
    refine ⟨j.askIf (asked id), (stored id).trans (congrArg (Option.map _) found), rfl,
      fun enabled => (Job.enabled_askIf enabled).1, fun _ => rfl⟩
  new := by
    intro id j found
    obtain ⟨before, earlier, _⟩ := Option.map_eq_some_iff.mp ((stored id).symm.trans found)
    exact Or.inr ⟨before, earlier⟩
  registry := fun kind => (entries kind).imp_right Or.inr
  occupied := by
    rintro kind ⟨id, j, registered, found, enabled⟩
    obtain ⟨kept, unasked⟩ | struck := spared kind id registered
    · refine Or.inl ⟨id, j, kept, (stored id).trans ?_, enabled⟩
      rw [found, Option.map_some, Job.askIf_false unasked]
    · exact Or.inr struck

theorem unregister (staffed : s.Staffed) (strike : strikes kind)
    (taken : s.unregister kind = some (job, next)) : Turnover hires strikes s next := by
  obtain ⟨found, rfl⟩ := unregister_eq_some taken
  refine asked (s.get?_disable job) (fun other => ?_) fun other id registered => ?_
  · rw [Table.get?_erase]
    split
    · rename_i same
      exact Or.inr ⟨same ▸ strike, rfl⟩
    · exact Or.inl rfl
  · by_cases same : kind = other
    · exact Or.inr (same ▸ strike)
    · refine Or.inl ⟨(Table.get?_erase_of_ne _ same).trans registered, ?_⟩
      rintro rfl
      exact same (staffed.kind_eq registered found)

theorem disableAll (strike : ∀ kind, strikes kind) : Turnover hires strikes s s.disableAll := by
  have stored := s.get?_disableAll
  rw [s.disableAll_eq]
  exact asked stored (fun kind => Or.inl rfl) fun kind _ _ => Or.inr (strike kind)

theorem spawn (staffed : s.Staffed) (hire : hires kind) :
    Turnover hires strikes s (s.spawn kind) := by
  obtain ⟨vacated, stored, spawned⟩ := s.spawn_eq kind
  rw [spawned]
  have old : ∀ id j, s.jobs.get? id = some j → (vacated.set s.fresh { kind }).get? id =
      some (j.askIf (s.registry.get? kind = some id)) := by
    intro id j found
    have earlier : s.fresh ≠ id := Nat.ne_of_gt (staffed.numbered id j found)
    rw [Table.get?_set_of_ne _ _ earlier, stored, found, Option.map_some]
  constructor
  · exact Nat.le_succ _
  · intro id j found
    exact ⟨_, old id j found, rfl, fun enabled => (Job.enabled_askIf enabled).1, fun _ => rfl⟩
  · intro id j found
    rw [Table.get?_set] at found
    split at found
    · rename_i same
      exact Or.inl (Nat.le_of_eq same)
    · obtain ⟨before, earlier, _⟩ := Option.map_eq_some_iff.mp ((stored id).symm.trans found)
      exact Or.inr ⟨before, earlier⟩
  · intro other
    rw [Table.get?_set]
    split
    · rename_i same
      exact Or.inr (Or.inl ⟨same ▸ hire, s.fresh, Nat.le_refl _, rfl⟩)
    · exact Or.inl rfl
  · rintro other ⟨id, j, registered, found, enabled⟩
    refine Or.inl ?_
    by_cases same : kind = other
    · exact ⟨s.fresh, { kind }, (Table.get?_set ..).trans (if_pos same),
        Table.get?_set_self .., rfl⟩
    · have spared : ¬ s.registry.get? kind = some id := fun placed =>
        same (staffed.kind_eq registered placed)
      refine ⟨id, j, (Table.get?_set_of_ne _ _ same).trans registered, ?_, enabled⟩
      rw [old id j found, Job.askIf_false spared]

theorem staffs (staffed : s.Staffed) (staffs : Staffs hires strikes s next) :
    Turnover hires strikes s next := by
  induction staffs with
  | trans first _ early late => exact (early staffed).trans (late (staffed.staffs first))
  | aside jobs registry _ fresh => exact aside jobs registry fresh
  | controls controls =>
      induction controls with
      | refl s => exact aside rfl rfl (Nat.le_refl _)
      | trans first _ early late =>
          exact (early staffed).trans (late (staffed.staffs (.controls first)))
      | newId s => exact aside rfl rfl (Nat.le_succ _)
      | spawn _ hire => exact spawn staffed hire
      | unregister strike taken => exact unregister staffed strike taken
  | progress stage found unfinished jobs registry _ fresh =>
      exact (progress found unfinished stage).trans (aside jobs registry fresh)
  | disableAll s strike => exact disableAll strike
  | retire strike _ =>
      exact {
        fresh := Nat.le_refl _
        jobs := fun job j found => ⟨j, found, rfl, id, fun _ => rfl⟩
        new := fun job j found => Or.inr ⟨j, found⟩
        registry := fun kind => Or.inr (Or.inr ⟨strike kind, rfl⟩)
        occupied := fun kind _ => Or.inr (strike kind) }

end Turnover

end ResourcePool.System
