import ResourcePool.Proofs.Books.Counting

/-! Who reports what. Each operation adds its reports to the journal in the name of whoever is at
work, and leaves alone what the jobs go by. -/
namespace ResourcePool

/-- Events that neither concern a failed job nor come from the loop or the tick of a policy. -/
def Event.isRoutine : Event → Bool
  | .keeperFailed _ | .healthFailed _ | .policyFailed .. | .policyCycleStart _ | .policyCycleEnd _
  | .policyStopped _ | .addressesChanged .. => false
  | _ => true

namespace Report

def isRoutine : Report → Bool
  | .event e _ => e.isRoutine
  | .policyStarted | .policyStopped | .terminating .. => false
  | _ => true

/-- Reports after which a watching policy may have another baseline: it started, or was heard
when it found a change. -/
def rebases : Report → Bool
  | .policyStarted => true
  | .event (.addressesChanged ..) refused => !refused
  | _ => false

theorem rebases_eq_false {report : Report} (routine : report.isRoutine = true) :
    report.rebases = false := by
  cases report with
  | event e refused =>
      cases e with
      | addressesChanged => contradiction
      | _ => rfl
  | policyStarted => contradiction
  | _ => rfl

end Report

namespace Books
variable {b before middle after : Books} {added early late : List Report}

/-- What somebody reported, the newest first. -/
def reportsOf (b : Books) (who : Option JobId) : List Report :=
  (b.journal.filter (·.job = who)).map Entry.report

/-- How long jobs are to pause, and the time. -/
def timing (b : Books) : Tuning × Nat := (b.tuning, b.clock)

/-- Changes that leave alone what the pauses of jobs go by. -/
structure Steady (before after : Books) : Prop where
  settings : after.settings = before.settings
  timing : after.timing = before.timing

/-- Changes that add reports in the name of whoever is at work. -/
structure Adds (added : List Report) (before after : Books) : Prop where
  reports : ∀ who,
    after.reportsOf who = (if who = before.actor then added else []) ++ before.reportsOf who
  actor : after.actor = before.actor
  settings : after.settings = before.settings
  timing : after.timing = before.timing
  terminated : after.terminated = before.terminated
  baseline : after.baseline = before.baseline ∨ ∃ report ∈ added, report.rebases = true

theorem reportsOf_note (b : Books) (report : Report) (who : Option JobId) :
    (b.note report).reportsOf who =
      (if who = b.actor then [report] else []) ++ b.reportsOf who := by
  by_cases own : who = b.actor
  · simp [reportsOf, note, own]
  · simp [reportsOf, note, own, Ne.symm own]

namespace Adds

theorem aside (journal : after.journal = before.journal) (actor : after.actor = before.actor)
    (settings : after.settings = before.settings) (timing : after.timing = before.timing)
    (terminated : after.terminated = before.terminated)
    (baseline : after.baseline = before.baseline) : Adds [] before after where
  reports := fun who => by simp only [reportsOf, journal, ite_self, List.nil_append]
  actor := actor
  settings := settings
  timing := timing
  terminated := terminated
  baseline := Or.inl baseline

theorem refl (b : Books) : Adds [] b b := aside rfl rfl rfl rfl rfl rfl

theorem trans (first : Adds early before middle) (second : Adds late middle after) :
    Adds (late ++ early) before after where
  reports := by
    intro who
    rw [second.reports, first.reports, first.actor]
    split <;> simp
  actor := second.actor.trans first.actor
  settings := second.settings.trans first.settings
  timing := second.timing.trans first.timing
  terminated := second.terminated.trans first.terminated
  baseline := by
    obtain same | ⟨report, member, rebases⟩ := second.baseline
    · rw [same]
      exact first.baseline.imp_right fun ⟨report, member, rebases⟩ =>
        ⟨report, List.mem_append_right _ member, rebases⟩
    · exact Or.inr ⟨report, List.mem_append_left _ member, rebases⟩

theorem note (b : Books) (report : Report) : Adds [report] b (b.note report) :=
  ⟨b.reportsOf_note report, rfl, rfl, rfl, rfl, Or.inl rfl⟩

theorem tell (b : Books) (event : Event) :
    Adds [.event event (b.sink b.journal event).isSome] b (b.tell event) := note b _

/-- What the one at work reports follows what was reported in his name. -/
theorem own (adds : Adds added before after) :
    after.reportsOf before.actor = added ++ before.reportsOf before.actor := by
  rw [adds.reports, if_pos rfl]

theorem other {who : Option JobId} (adds : Adds added before after)
    (different : who ≠ before.actor) :
    after.reportsOf who = before.reportsOf who := by
  rw [adds.reports, if_neg different, List.nil_append]

theorem steady (adds : Adds added before after) : Steady before after :=
  ⟨adds.settings, adds.timing⟩

theorem baseline_eq (adds : Adds added before after)
    (kept : ∀ report ∈ added, report.rebases = false) : after.baseline = before.baseline := by
  obtain same | ⟨report, member, rebases⟩ := adds.baseline
  · exact same
  · cases (kept report member).symm.trans rebases

end Adds

/-- Changes that add only routine reports. -/
def Routine (before after : Books) : Prop :=
  ∃ added, Adds added before after ∧ ∀ report ∈ added, report.isRoutine = true

namespace Routine

theorem aside (journal : after.journal = before.journal) (actor : after.actor = before.actor)
    (settings : after.settings = before.settings) (timing : after.timing = before.timing)
    (terminated : after.terminated = before.terminated)
    (baseline : after.baseline = before.baseline) : Routine before after :=
  ⟨[], .aside journal actor settings timing terminated baseline, by simp⟩

theorem refl (b : Books) : Routine b b := aside rfl rfl rfl rfl rfl rfl

theorem trans (first : Routine before middle) (second : Routine middle after) :
    Routine before after := by
  obtain ⟨early, adds, routine⟩ := first
  obtain ⟨late, adds', routine'⟩ := second
  exact ⟨late ++ early, adds.trans adds', List.forall_mem_append.mpr ⟨routine', routine⟩⟩

theorem note (b : Books) {report : Report} (routine : report.isRoutine = true) :
    Routine b (b.note report) := ⟨[report], .note b report, by simpa using routine⟩

theorem tell (b : Books) {event : Event} (routine : event.isRoutine = true) :
    Routine b (b.tell event) := note b routine

theorem actor (routine : Routine before after) : after.actor = before.actor := by
  obtain ⟨_, adds, _⟩ := routine
  exact adds.actor

theorem settings (routine : Routine before after) : after.settings = before.settings := by
  obtain ⟨_, adds, _⟩ := routine
  exact adds.settings

theorem steady (routine : Routine before after) : Steady before after := by
  obtain ⟨_, adds, _⟩ := routine
  exact adds.steady

theorem terminated (routine : Routine before after) : after.terminated = before.terminated := by
  obtain ⟨_, adds, _⟩ := routine
  exact adds.terminated

theorem baseline (routine : Routine before after) : after.baseline = before.baseline := by
  obtain ⟨_, adds, routine⟩ := routine
  exact adds.baseline_eq fun report member => Report.rebases_eq_false (routine report member)

theorem other {who : Option JobId} (routine : Routine before after)
    (different : who ≠ before.actor) :
    after.reportsOf who = before.reportsOf who := by
  obtain ⟨_, adds, _⟩ := routine
  exact adds.other different

/-! ## Operations -/

theorem count (b : Books) (counter : Counter) (amount : Nat) :
    Routine b (b.count counter amount) := aside rfl rfl rfl rfl rfl rfl

theorem take (b : Books) (resource : Resource) : Routine b (b.take resource) :=
  aside rfl rfl rfl rfl rfl rfl

theorem letGo (b : Books) (resource : Resource) : Routine b (b.letGo resource) :=
  aside rfl rfl rfl rfl rfl rfl

theorem stored (b : Books) (store : Store Resource) : Routine b { b with store } :=
  aside rfl rfl rfl rfl rfl rfl

theorem takeAll (b : Books) (resources : List Resource) : Routine b (b.takeAll resources) := by
  induction resources generalizing b with
  | nil => exact refl b
  | cons resource rest ih => exact (take b resource).trans (ih (b.take resource))

theorem letGoAll (b : Books) (resources : List Resource) : Routine b (b.letGoAll resources) := by
  induction resources generalizing b with
  | nil => exact refl b
  | cons resource rest ih => exact (letGo b resource).trans (ih (b.letGo resource))

theorem clear (b : Books) : Routine b b.clear :=
  (((stored b b.store.clear.2).trans (count _ .clears 1)).trans (tell _ rfl)).trans (letGoAll _ _)

theorem release (b : Books) (lease : Lease) : Routine b (b.release lease) := by
  obtain ⟨store, recycled | dropped⟩ := b.release_cases lease
  · rw [recycled]
    exact ((stored b store).trans (count _ .returned 1)).trans (letGo _ _)
  · rw [dropped]
    exact (((stored b store).trans (count _ .discarded 1)).trans (tell _ rfl)).trans (letGo _ _)

theorem remove (b : Books) (slot : SlotId) : Routine b (b.remove slot).2 := by
  unfold Books.remove
  rcases b.store.remove slot with ⟨_ | resource, store⟩
  · exact refl b
  · exact (stored b store).trans (letGo _ _)

theorem forget (b : Books) (lease : Lease) : Routine b (b.forget lease) := by
  unfold Books.forget
  cases lease.slot with
  | none => exact refl b
  | some slot => exact remove b slot

theorem claim (b : Books) : Routine b b.claim.2 := by
  unfold Books.claim
  rcases b.store.claim with ⟨_ | claim, store⟩
  · exact stored b store
  · exact (stored b store).trans (take _ _)

theorem callFactory (b : Books) : Routine b b.callFactory.2 := by
  have begun : Routine b { b with calls := b.calls + 1 } := aside rfl rfl rfl rfl rfl rfl
  exact begun.trans (note _ rfl)

theorem endCall (b : Books) (call : Resource) (supply : Supply) :
    Routine b (b.endCall call supply) := by
  have noted : Routine b (b.note (.factoryEnded call supply)) := note b rfl
  cases supply with
  | made => exact noted.trans (take _ _)
  | failed | panicked => exact noted

theorem erase (b : Books) (lease : Lease) : Routine b (b.erase lease) := by
  have erased {told : Books} (routine : Routine b told) :
      Routine b (((told.count .evicted 1).forget lease).letGo lease.resource) :=
    ((routine.trans (count _ .evicted 1)).trans (forget _ lease)).trans (letGo _ _)
  unfold Books.erase
  refine erased ?_
  cases lease.slot with
  | none => exact refl b
  | some slot => exact tell b rfl

theorem acquire (b : Books) : Routine b b.acquire.2 := by
  have claimed := claim b
  unfold Books.acquire
  rcases taken : b.claim with ⟨_ | lease, next⟩ <;> rw [taken] at claimed
  · exact (claimed.trans (tell _ rfl)).trans (callFactory _)
  · simp only
    split
    · exact claimed
    · exact claimed.trans (count _ .leased 1)

theorem tryAcquire (b : Books) : Routine b b.tryAcquire.2 := by
  have claimed := claim b
  unfold Books.tryAcquire
  rcases taken : b.claim with ⟨_ | lease, next⟩ <;> rw [taken] at claimed
  · exact claimed
  · exact claimed.trans (count _ .leased 1)

theorem acquireChecked (b : Books) (lease : Lease) (verdict : Verdict) :
    Routine b (b.acquireChecked lease verdict).2 := by
  cases verdict with
  | sound => exact count b .leased 1
  | broken | failed => exact (erase b lease).trans (acquire _)
  | panicked text => exact release b lease

theorem acquireSupplied (b : Books) (generation : Nat) (call : Resource) (supply : Supply) :
    Routine b (b.acquireSupplied generation call supply).2 := by
  have ended := endCall b call supply
  cases supply with
  | made =>
      have counted : Routine (b.endCall call .made) (b.endCall call .made).countEmergency :=
        ((count _ .created 1).trans (count _ .emergencyCreated 1)).trans (count _ .leased 1)
      simp only [Books.acquireSupplied, admitEmergency_eq]
      rcases (b.endCall call .made).store.admitLeased call generation with ⟨_ | slot, store⟩
      · exact (ended.trans counted).trans (tell _ rfl)
      · exact (((ended.trans counted).trans (stored _ store)).trans (take _ call)).trans
          (tell _ rfl)
  | failed text => exact ended.trans (count _ .factoryFailures 1)
  | panicked text => exact ended

theorem inspectNext (b : Books) (i : Inspection) : Routine b (b.inspectNext i).2 := by
  unfold Books.inspectNext
  split
  · exact refl b
  · exact (letGoAll b _).trans (count _ .unhealthy _)

theorem inspect (b : Books) (order : List Resource) : Routine b (b.inspect order).2 :=
  (takeAll b _).trans (inspectNext _ _)

theorem inspectChecked (b : Books) (i : Inspection) (verdict : Verdict) :
    Routine b (b.inspectChecked i verdict).2 := by
  cases verdict with
  | sound | broken | failed => exact inspectNext b _
  | panicked => exact letGoAll b _

end Routine

/-! ## Outside of turns -/

/-- Routine changes, of a pool that may have been tuned and after some time. -/
def Outside (before after : Books) : Prop :=
  ∃ tuning clock, Routine { before with tuning, clock } after

theorem Routine.outside (routine : Routine before after) : Outside before after :=
  ⟨before.tuning, before.clock, routine⟩

namespace Outside

theorem trans (first : Outside before middle) (second : Outside middle after) :
    Outside before after := by
  obtain ⟨_, _, added, adds, routine⟩ := first
  obtain ⟨tuning, clock, routine'⟩ := second
  have later : Adds added { before with tuning, clock } { middle with tuning, clock } :=
    ⟨adds.reports, adds.actor, adds.settings, rfl, adds.terminated, adds.baseline⟩
  exact ⟨tuning, clock, Routine.trans ⟨added, later, routine⟩ routine'⟩

theorem actor (outside : Outside before after) : after.actor = before.actor := by
  obtain ⟨_, _, routine⟩ := outside
  exact routine.actor

theorem settings (outside : Outside before after) : after.settings = before.settings := by
  obtain ⟨_, _, routine⟩ := outside
  exact routine.settings

theorem terminated (outside : Outside before after) : after.terminated = before.terminated := by
  obtain ⟨_, _, routine⟩ := outside
  exact routine.terminated

theorem baseline (outside : Outside before after) : after.baseline = before.baseline := by
  obtain ⟨_, _, routine⟩ := outside
  exact routine.baseline

theorem other {who : Option JobId} (outside : Outside before after)
    (different : who ≠ before.actor) :
    after.reportsOf who = before.reportsOf who := by
  obtain ⟨_, _, routine⟩ := outside
  exact routine.other different

end Outside
end Books
end ResourcePool
