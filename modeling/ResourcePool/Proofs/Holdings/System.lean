import ResourcePool.Proofs.Holdings.Upkeep
import ResourcePool.Proofs.Jobs.Control
import ResourcePool.Proofs.System.FactoryLedger

/-! Who refers to which resources. Every reference is the store's, a lease's, a handle's, a waiting
call's or a job's, and whatever is done hands on the references that it takes over. -/
namespace ResourcePool
open Books (Trades Keeps)

/-- What a call keeps while it waits. -/
def Call.holdings : Call → Multiset Resource
  | .getting (.checking lease) => lease.holdings
  | .inspecting inspection => inspection.members
  | _ => 0

theorem Call.holdings_of_isControl {call : Call} (control : call.isControl = true) :
    call.holdings = 0 := by
  cases call with
  | getting | inspecting | cancelled => contradiction
  | joining | finished => rfl

namespace System
variable {s t next : System} {a : Action} {c : CallId} {call : Call} {transaction : Transaction}

/-- What the calls and the jobs of a pool keep for themselves. -/
def inFlight (s : System) : Multiset Resource :=
  s.calls.total Call.holdings + s.jobs.total (·.stage.holdings)

/-- What everybody keeps apart from the store. -/
def entrusted (s : System) : Multiset Resource :=
  s.leases.total Lease.holdings + s.held.total (fun resource => {resource}) + s.inFlight

/-- Leases, handles, calls and jobs have numbers of their own. -/
structure Tidy (s : System) : Prop where
  leases : s.leases.keys.Nodup
  held : s.held.keys.Nodup
  calls : s.calls.keys.Nodup
  handles : ∀ id resource, s.held.get? id = some resource → id < s.fresh
  jobs : s.JobsNumbered

/-- All references are accounted for. -/
structure Accounted (s : System) : Prop extends Tidy s where
  keeps : s.books.Keeps s.entrusted

/-! ## What changes hands -/

/-- What a call keeps takes the place of what it kept. -/
theorem entrusted_setCall (s : System) (c : CallId) (call : Call) :
    ∃ others, s.entrusted = (s.calls.get? c).elim 0 Call.holdings + others ∧
      (s.setCall c call).entrusted = call.holdings + others := by
  obtain ⟨others, before, after⟩ := s.calls.total_set Call.holdings c call
  refine ⟨s.leases.total Lease.holdings + s.held.total (fun resource => {resource}) +
    (others + s.jobs.total (·.stage.holdings)), ?_, ?_⟩
  · simp only [entrusted, inFlight, before]
    ac_rfl
  · simp only [entrusted, inFlight, setCall, after]
    ac_rfl

theorem entrusted_addLease (s : System) (absent : s.leases.get? s.fresh = none) (lease : Lease) :
    (s.addLease lease).2.entrusted = lease.holdings + s.entrusted := by
  simp only [entrusted, inFlight, addLease, newId, Table.total_set_of_absent _ absent]
  ac_rfl

theorem entrusted_addHandle (s : System) (absent : s.held.get? s.fresh = none)
    (resource : Resource) : (s.addHandle resource).entrusted = {resource} + s.entrusted := by
  simp only [entrusted, inFlight, addHandle, newId, Table.total_set_of_absent _ absent]
  ac_rfl

theorem entrusted_eraseLease {id : LeaseId} {lease : Lease} (distinct : s.leases.keys.Nodup)
    (found : s.leases.get? id = some lease) : s.entrusted =
      lease.holdings + ({ s with leases := s.leases.erase id } : System).entrusted := by
  simp only [entrusted, inFlight, Table.total_erase Lease.holdings distinct found]
  ac_rfl

theorem entrusted_eraseHandle {id : HandleId} {resource : Resource}
    (distinct : s.held.keys.Nodup) (found : s.held.get? id = some resource) : s.entrusted =
      {resource} + ({ s with held := s.held.erase id } : System).entrusted := by
  simp only [entrusted, inFlight,
    Table.total_erase (fun resource : Resource => ({resource} : Multiset Resource)) distinct found]
  ac_rfl

theorem entrusted_setJob {job : JobId} {j : Job} (found : s.jobs.get? job = some j) (j' : Job) :
    ∃ others, s.entrusted = j.stage.holdings + others ∧
      ({ s with jobs := s.jobs.set job j' } : System).entrusted = j'.stage.holdings + others := by
  obtain ⟨others, before, after⟩ := s.jobs.total_set (·.stage.holdings) job j'
  rw [found] at before
  refine ⟨s.leases.total Lease.holdings + s.held.total (fun resource => {resource}) +
    (s.calls.total Call.holdings + others), ?_, ?_⟩
  · simp only [entrusted, inFlight, before, Option.elim_some]
    ac_rfl
  · simp only [entrusted, inFlight, after]
    ac_rfl

/-- An acquisition on record is the caller's once it is over, and the call's before. -/
theorem entrusted_recordGet (s : System) (absent : s.leases.get? s.fresh = none) (c : CallId)
    (acquisition : Acquisition) :
    ∃ others, s.entrusted = (s.calls.get? c).elim 0 Call.holdings + others ∧
      (s.recordGet c acquisition).entrusted = acquisition.holdings + others := by
  cases acquisition with
  | leased lease =>
      obtain ⟨others, before, after⟩ := s.entrusted_setCall c (.finished (.leased s.fresh))
      have leased := (s.setCall c (.finished (.leased s.fresh))).entrusted_addLease absent lease
      rw [after] at leased
      exact ⟨others, before, leased.trans (congrArg (lease.holdings + ·) (zero_add others))⟩
  | checking lease => exact s.entrusted_setCall c (.getting (.checking lease))
  | creating generation call => exact s.entrusted_setCall c (.getting (.creating generation call))
  | failed failure => exact s.entrusted_setCall c (.finished (.failed failure))
  | panicked text => exact s.entrusted_setCall c (.finished (.panicked text))

theorem recordInspection_holdings (s : System) (c : CallId) (inspecting : Inspecting) :
    ∃ call : Call, call.holdings = inspecting.holdings ∧
      s.recordInspection c inspecting = s.setCall c call := by
  cases inspecting <;> exact ⟨_, rfl, rfl⟩

/-! ## Numbers -/

namespace Tidy

theorem aside (tidy : s.Tidy) (leases : next.leases = s.leases) (held : next.held = s.held)
    (calls : next.calls = s.calls) (jobs : next.jobs = s.jobs) (fresh : s.fresh ≤ next.fresh) :
    next.Tidy where
  leases := leases ▸ tidy.leases
  held := held ▸ tidy.held
  calls := calls ▸ tidy.calls
  handles := fun id resource found =>
    Nat.lt_of_lt_of_le (tidy.handles id resource (held ▸ found)) fresh
  jobs := fun id j found => Nat.lt_of_lt_of_le (tidy.jobs id j (jobs ▸ found)) fresh

theorem housekept (tidy : s.Tidy) (kept : Housekeeping s next) (held : next.held = s.held) :
    next.Tidy where
  leases := kept.leases ▸ tidy.leases
  held := held ▸ tidy.held
  calls := kept.calls ▸ tidy.calls
  handles := fun id resource found =>
    Nat.lt_of_lt_of_le (tidy.handles id resource (held ▸ found)) kept.fresh
  jobs := (kept.added tidy.jobs).1

theorem setCall (tidy : s.Tidy) (c : CallId) (call : Call) : (s.setCall c call).Tidy :=
  { tidy with calls := Table.nodup_keys_set tidy.calls c call }

theorem addLease (tidy : s.Tidy) (lease : Lease) : (s.addLease lease).2.Tidy where
  leases := Table.nodup_keys_set tidy.leases _ _
  held := tidy.held
  calls := tidy.calls
  handles := fun id resource found => Nat.lt_succ_of_lt (tidy.handles id resource found)
  jobs := fun id j found => Nat.lt_succ_of_lt (tidy.jobs id j found)

theorem addHandle (tidy : s.Tidy) (resource : Resource) : (s.addHandle resource).Tidy where
  leases := tidy.leases
  held := Table.nodup_keys_set tidy.held _ _
  calls := tidy.calls
  handles := by
    intro id resource found
    simp only [System.addHandle, newId, Table.get?_set] at found ⊢
    split at found
    · rename_i same
      exact same ▸ Nat.lt_succ_self s.fresh
    · exact Nat.lt_succ_of_lt (tidy.handles id resource found)
  jobs := fun id j found => Nat.lt_succ_of_lt (tidy.jobs id j found)

theorem eraseLease (tidy : s.Tidy) (id : LeaseId) :
    ({ s with leases := s.leases.erase id } : System).Tidy :=
  { tidy with leases := Table.nodup_keys_erase tidy.leases id }

theorem eraseHandle (tidy : s.Tidy) (id : HandleId) :
    ({ s with held := s.held.erase id } : System).Tidy where
  leases := tidy.leases
  held := Table.nodup_keys_erase tidy.held id
  calls := tidy.calls
  handles := by
    intro other resource found
    rw [Table.get?_erase] at found
    split at found
    · contradiction
    · exact tidy.handles other resource found
  jobs := tidy.jobs

theorem recordGet (tidy : s.Tidy) (c : CallId) (acquisition : Acquisition) :
    (s.recordGet c acquisition).Tidy := by
  cases acquisition with
  | leased lease => exact (tidy.addLease lease).setCall c _
  | checking | creating | failed | panicked => exact tidy.setCall c _

theorem unheld (tidy : s.Tidy) : s.held.get? s.fresh = none := by
  cases found : s.held.get? s.fresh with
  | none => rfl
  | some resource => exact False.elim (Nat.lt_irrefl _ (tidy.handles _ resource found))

end Tidy

theorem Orderly.uncalled (orderly : s.Orderly) : s.calls.get? s.fresh = none := by
  cases found : s.calls.get? s.fresh with
  | none => rfl
  | some call => exact False.elim (Nat.lt_irrefl _ (orderly.calls _ call found))

/-! ## Actions -/

namespace Accounted
variable {books : Books} {given taken others : Multiset Resource}

/-- What is left to others stays theirs. -/
theorem traded (accounted : s.Accounted) (tidy : next.Tidy) (before : s.entrusted = given + others)
    (after : next.entrusted = taken + others) (trades : Trades s.books next.books given taken) :
    next.Accounted :=
  ⟨tidy, after ▸ trades.keeps others (before ▸ accounted.keeps)⟩

/-- What a call keeps may be traded for what it keeps then. -/
theorem recalled {fresh : Nat} (accounted : s.Accounted) (grows : s.fresh ≤ fresh)
    (kept : (s.calls.get? c).elim 0 Call.holdings = given)
    (trades : Trades s.books books given call.holdings) :
    (({ s with books, fresh } : System).setCall c call).Accounted := by
  obtain ⟨others, before, after⟩ := ({ s with books, fresh } : System).entrusted_setCall c call
  have tidy : ({ s with books, fresh } : System).Tidy :=
    accounted.toTidy.aside rfl rfl rfl rfl grows
  exact accounted.traded (tidy.setCall c call) (kept ▸ before) after trades

theorem recorded {fresh : Nat} {acquisition : Acquisition} (accounted : s.Accounted)
    (orderly : s.Orderly) (grows : s.fresh ≤ fresh)
    (kept : (s.calls.get? c).elim 0 Call.holdings = given)
    (trades : Trades s.books books given acquisition.holdings) :
    (({ s with books, fresh } : System).recordGet c acquisition).Accounted := by
  obtain ⟨others, before, after⟩ :=
    ({ s with books, fresh } : System).entrusted_recordGet (orderly.freshLease grows) c acquisition
  have tidy : ({ s with books, fresh } : System).Tidy :=
    accounted.toTidy.aside rfl rfl rfl rfl grows
  refine accounted.traded (tidy.recordGet c acquisition) (kept ▸ before) after ?_
  rw [books_recordGet]
  exact trades

theorem inspected {fresh : Nat} {inspecting : Inspecting} (accounted : s.Accounted)
    (grows : s.fresh ≤ fresh) (kept : (s.calls.get? c).elim 0 Call.holdings = given)
    (trades : Trades s.books books given inspecting.holdings) :
    (({ s with books, fresh } : System).recordInspection c inspecting).Accounted := by
  obtain ⟨call, same, recorded⟩ :=
    ({ s with books, fresh } : System).recordInspection_holdings c inspecting
  rw [recorded]
  exact accounted.recalled grows kept (same ▸ trades)

/-- Jobs that were spawned keep nothing so far. -/
theorem housekept (accounted : s.Accounted) (kept : Housekeeping s next)
    (aside : next.books = s.books ∧ next.held = s.held) : next.Accounted := by
  obtain ⟨books, held⟩ := aside
  have total (t : System) :
      t.jobs.total (·.stage.holdings) = (t.stages.map Stage.holdings).sum := by
    rw [stages, List.map_map]
    rfl
  obtain ⟨_, added, stages⟩ := kept.added accounted.jobs
  have spawned : next.jobs.total (·.stage.holdings) = s.jobs.total (·.stage.holdings) := by
    rw [total, total, stages, List.map_append, List.sum_append, List.map_replicate,
      List.sum_replicate]
    exact (congrArg _ (nsmul_zero added)).trans (add_zero _)
  have same : next.entrusted = s.entrusted := by
    simp only [entrusted, inFlight, kept.leases, held, kept.calls, spawned]
  refine accounted.traded (accounted.toTidy.housekept kept held) (zero_add _).symm
    (same.trans (zero_add _).symm) ?_
  exact books ▸ .refl s.books 0

theorem controlled (accounted : s.Accounted)
    (kept : (s.calls.get? c).elim 0 Call.holdings = 0)
    (leads : Leads (fun _ => True) (fun _ => True) Call.isControl s c next) : next.Accounted := by
  obtain ⟨t, call, controls, control, rfl⟩ := leads
  have kept' : (t.calls.get? c).elim 0 Call.holdings = 0 := controls.housekeeping.calls ▸ kept
  refine (accounted.housekept controls.housekeeping controls.aside).recalled (Nat.le_refl _)
    kept' ?_
  rw [Call.holdings_of_isControl control]
  exact .refl _ 0

theorem transacts (accounted : s.Accounted) (orderly : s.Orderly)
    (transacts : s.Transacts a transaction next) : next.Accounted := by
  cases transacts with
  | get present =>
      exact accounted.recorded orderly (Nat.le_succ _) (by rw [orderly.uncalled]; rfl)
        (.acquire s.books)
  | tryGet =>
      have trades := Trades.tryAcquire s.books
      unfold callPool
      rcases taken : s.books.tryAcquire with ⟨_ | lease, books⟩ <;> rw [taken] at trades
      · exact accounted.traded (accounted.toTidy.aside rfl rfl rfl rfl (Nat.le_refl _))
          (zero_add _).symm (zero_add _).symm trades
      · have tidy : ({ s with books } : System).Tidy :=
          accounted.toTidy.aside rfl rfl rfl rfl (Nat.le_refl _)
        have fresh := orderly.freshLease (Nat.le_refl s.fresh)
        exact accounted.traded (tidy.addLease lease) (zero_add _).symm
          (({ s with books } : System).entrusted_addLease fresh lease) trades
  | clear =>
      exact accounted.traded (accounted.toTidy.aside rfl rfl rfl rfl (Nat.le_refl _))
        (zero_add _).symm (zero_add _).symm (.clear s.books)
  | @dropped id l found =>
      have tidy := accounted.toTidy.eraseLease id
      refine accounted.traded (tidy.aside rfl rfl rfl rfl (Nat.le_refl _))
        (entrusted_eraseLease accounted.leases found) (zero_add _).symm ?_
      unfold dropLease
      split
      · exact .letGo s.books l.resource
      · exact .release s.books l
  | @detached id l found =>
      have tidy := accounted.toTidy.eraseLease id
      refine accounted.traded ((tidy.addHandle l.resource).aside rfl rfl rfl rfl (Nat.le_refl _))
        (entrusted_eraseLease accounted.leases found)
        (({ s with leases := s.leases.erase id } : System).entrusted_addHandle
          accounted.toTidy.unheld l.resource) ?_
      unfold detachLease
      split
      · exact .refl s.books _
      · have forgotten := (Trades.forget s.books l).beside l.holdings
        rw [zero_add] at forgotten
        exact forgotten
  | @abandoned c l found =>
      exact accounted.recalled (Nat.le_refl _) (by rw [found]; rfl) (.release s.books l)
  | @checked c l verdict found =>
      exact accounted.recorded orderly (Nat.le_refl _) (by rw [found]; rfl)
        (.acquireChecked s.books l verdict)
  | @supplied c generation call supply found =>
      exact accounted.recorded orderly (Nat.le_refl _) (by rw [found]; rfl)
        (.acquireSupplied s.books generation call supply)
  | @turned job j signal work found answered =>
      obtain ⟨others, before, after⟩ := entrusted_setJob found (j.turn job work s.books).1
      have turned : s.Transacts (.signal job signal) (.turned job j signal) _ :=
        .turned found answered
      exact accounted.traded
        { accounted.toTidy with jobs := turned.jobsNumbered (Nat.le_refl _) accounted.jobs }
        before after (Job.turn_trades answered job)

theorem called (accounted : s.Accounted) (present : s.present = true → (s.callPool a).Accounted) :
    (if s.present then s.callPool a else s).Accounted := by
  split
  · rename_i there
    exact present there
  · exact accounted

theorem cancel (accounted : s.Accounted) (found : s.calls.get? c = some call)
    (unchecked : ∀ lease, call ≠ .getting (.checking lease)) :
    (s.cancelCall c call).Accounted := by
  have given (books : Books) (trades : Trades s.books books call.holdings 0) :
      (({ s with books } : System).setCall c .cancelled).Accounted :=
    accounted.recalled (Nat.le_refl _) (by rw [found]; rfl) trades
  cases call with
  | getting acquisition =>
      cases acquisition with
      | checking lease => exact False.elim (unchecked lease rfl)
      | leased | creating | failed | panicked => exact given s.books (.refl s.books 0)
  | inspecting i => exact given _ (.letGoAll s.books i.members)
  | joining job after => exact given s.books (.refl s.books 0)
  | finished | cancelled => exact accounted

theorem dropPool (accounted : s.Accounted) : s.dropPool.Accounted := by
  unfold System.dropPool
  split
  · exact accounted
  · have asked : s.disableAll.books = s.books ∧ s.disableAll.held = s.held := by
      rw [s.disableAll_eq]
      exact ⟨rfl, rfl⟩
    have disabled := accounted.housekept (.disableAll s) asked
    exact disabled.traded (disabled.toTidy.aside rfl rfl rfl rfl (Nat.le_refl _)) (zero_add _).symm
      (zero_add _).symm (.refl _ 0)

/-- What is no transaction hands on what callers keep without a lease, or keeps all as it is. -/
theorem incidental (accounted : s.Accounted) (orderly : s.Orderly)
    (none : s.transaction? a = none) : (s.perform a).Accounted := by
  have unused : (s.newId.2.calls.get? s.fresh).elim 0 Call.holdings = 0 := by
    rw [newId, orderly.uncalled]
    rfl
  have begun : s.newId.2.Accounted := accounted.housekept (.newId s) ⟨rfl, rfl⟩
  have aside (books : Books) (trades : Trades s.books books 0 0) :
      ({ s with books } : System).Accounted :=
    accounted.traded (accounted.toTidy.aside rfl rfl rfl rfl (Nat.le_refl _)) (zero_add _).symm
      (zero_add _).symm trades
  cases a with
  | get | tryGet | clear | dropLease | detach | supply | signal =>
      rw [perform_eq_self rfl none]
      exact accounted
  | hold id =>
      simp only [perform]
      split
      · rename_i l found
        have tidy : ({ s with books := s.books.take l.resource } : System).Tidy :=
          accounted.toTidy.aside rfl rfl rfl rfl (Nat.le_refl _)
        exact accounted.traded (tidy.addHandle l.resource) (zero_add _).symm
          (entrusted_addHandle { s with books := s.books.take l.resource }
            accounted.toTidy.unheld l.resource) (.take s.books l.resource)
      · exact accounted
  | letGo id =>
      simp only [perform]
      split
      · rename_i resource found
        exact accounted.traded
          ((accounted.toTidy.eraseHandle id).aside rfl rfl rfl rfl (Nat.le_refl _))
          (entrusted_eraseHandle accounted.held found) (zero_add _).symm (.letGo s.books resource)
      · exact accounted
  | inspect order =>
      exact accounted.called fun _ =>
        begun.inspected (Nat.le_refl _) unused (.inspect s.books order)
  | tune tuning => exact accounted.called fun _ => aside _ (.aside rfl rfl)
  | start kind =>
      exact accounted.called fun present => begun.controlled unused
        (s.newId.2.startJob_leads s.fresh present trivial trivial)
  | stop kind =>
      exact accounted.called fun _ => begun.controlled unused
        (s.newId.2.stopEach_leads s.fresh fun _ _ => trivial).isControl
  | stopAll =>
      exact accounted.called fun _ => begun.controlled unused
        (s.newId.2.stopEach_leads s.fresh fun _ _ => trivial).isControl
  | dropPool => exact accounted.called fun _ => accounted.dropPool
  | cancel c =>
      simp only [perform]
      split
      · rename_i call found
        refine accounted.cancel found fun lease checking => ?_
        simp [transaction?, found, checking] at none
      · exact accounted
  | answer c verdict =>
      simp only [perform]
      split
      · rename_i lease found
        simp [transaction?, found] at none
      · rename_i i found
        exact accounted.inspected (Nat.le_refl _) (by rw [found]; rfl)
          (.inspectChecked s.books i verdict)
      · exact accounted
  | resume c =>
      simp only [perform]
      split
      · rename_i job after found
        split
        · exact accounted.controlled (by rw [found]; rfl)
            (s.afterJoin_leads c (orderly.present found rfl) _ after (fun _ _ => trivial)
              fun _ _ _ _ => trivial).isControl
        · exact accounted
      · exact accounted
  | pass ticks => exact aside _ (.aside rfl rfl)
  | setSink sink => exact aside _ (.aside rfl rfl)

theorem perform (accounted : s.Accounted) (orderly : s.Orderly) (a : Action) :
    (s.perform a).Accounted := by
  obtain ⟨_, _, transacts⟩ | ⟨none, _⟩ := perform_cases orderly a
  · exact accounted.transacts orderly transacts
  · exact accounted.incidental orderly none

/-- When the books are closed the store lets go of all that it has. -/
theorem settle (accounted : s.Accounted) : s.settle.Accounted := by
  unfold System.settle
  split
  · exact accounted.traded (accounted.toTidy.aside rfl rfl rfl rfl (Nat.le_refl _))
      (zero_add _).symm (zero_add _).symm (.close s.books)
  · exact accounted

theorem step (accounted : s.Accounted) (orderly : s.Orderly) (a : Action) :
    (s.step a).Accounted := by
  obtain same | performed := step_cases s a
  · rw [same]
    exact accounted
  · rw [performed]
    exact (accounted.perform orderly a).settle

end Accounted
end System
end ResourcePool
