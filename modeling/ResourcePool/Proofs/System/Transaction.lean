import ResourcePool.Proofs.System.Effect

/-! Transactions: the actions that concern leases, factory calls or the store. By cases on what
callers do, on the answers that calls wait for, and on the turns of jobs, every action is one of
them, or is incidental and leaves all that is counted alone. -/
namespace ResourcePool

inductive Transaction where
  | get
  | tryGet
  | clear
  | dropped (id : LeaseId) (lease : Lease)
  | detached (id : LeaseId) (lease : Lease)
  /-- A call is given up during the check of the lease that it keeps. -/
  | abandoned (c : CallId) (lease : Lease)
  | checked (c : CallId) (lease : Lease) (verdict : Verdict)
  | supplied (c : CallId) (generation : Nat) (call : Resource) (supply : Supply)
  | turned (job : JobId) (j : Job) (signal : Signal)

/-- Whether an action does nothing unless it is a transaction. -/
def Action.onlyTransacts : Action → Bool
  | .get | .tryGet | .clear | .dropLease _ | .detach _ | .supply .. | .signal .. => true
  | _ => false

namespace System
open Books (Changes)
variable {s t next : System} {a : Action}

def transaction? (s : System) : Action → Option Transaction
  | .get => if s.present then some .get else none
  | .tryGet => if s.present then some .tryGet else none
  | .clear => if s.present then some .clear else none
  | .dropLease id => (s.leases.get? id).map (.dropped id)
  | .detach id => (s.leases.get? id).map (.detached id)
  | .cancel c =>
      match s.calls.get? c with
      | some (.getting (.checking lease)) => some (.abandoned c lease)
      | _ => none
  | .answer c verdict =>
      match s.calls.get? c with
      | some (.getting (.checking lease)) => some (.checked c lease verdict)
      | _ => none
  | .supply c supply =>
      match s.calls.get? c with
      | some (.getting (.creating generation call)) => some (.supplied c generation call supply)
      | _ => none
  | .signal job signal =>
      match s.jobs.get? job with
      | some j => if (j.respond s.books signal).isSome then some (.turned job j signal) else none
      | none => none
  | _ => none

/-- What a transaction does. -/
inductive Transacts (s : System) : Action → Transaction → System → Prop
  | get : s.present = true → s.Transacts .get .get
      (({ s with books := s.books.acquire.2, fresh := s.fresh + 1 } : System).recordGet s.fresh
        s.books.acquire.1)
  | tryGet : s.Transacts .tryGet .tryGet (s.callPool .tryGet)
  | clear : s.Transacts .clear .clear { s with books := s.books.clear }
  | dropped {id : LeaseId} {l : Lease} : s.leases.get? id = some l →
      s.Transacts (.dropLease id) (.dropped id l) (s.dropLease id l)
  | detached {id : LeaseId} {l : Lease} : s.leases.get? id = some l →
      s.Transacts (.detach id) (.detached id l) (s.detachLease id l)
  | abandoned {c : CallId} {l : Lease} : s.calls.get? c = some (.getting (.checking l)) →
      s.Transacts (.cancel c) (.abandoned c l)
        (({ s with books := s.books.release l } : System).setCall c .cancelled)
  | checked {c : CallId} {l : Lease} (verdict : Verdict) :
      s.calls.get? c = some (.getting (.checking l)) →
      s.Transacts (.answer c verdict) (.checked c l verdict)
        (({ s with books := (s.books.acquireChecked l verdict).2 } : System).recordGet c
          (s.books.acquireChecked l verdict).1)
  | supplied {c : CallId} {generation : Nat} {call : Resource} (supply : Supply) :
      s.calls.get? c = some (.getting (.creating generation call)) →
      s.Transacts (.supply c supply) (.supplied c generation call supply)
        (({ s with books := (s.books.acquireSupplied generation call supply).2 } :
          System).recordGet c (s.books.acquireSupplied generation call supply).1)
  | turned {job : JobId} {j : Job} {signal : Signal} {work : Work Stage} :
      s.jobs.get? job = some j → j.respond s.books signal = some work →
      s.Transacts (.signal job signal) (.turned job j signal)
        { s with
          books := (j.turn job work s.books).2
          jobs := s.jobs.set job (j.turn job work s.books).1 }

/-- What is no transaction is housekeeping, also with a call on record that has nothing to do
with leases, or gives the pool up. -/
inductive Incidental (s : System) : System → Prop
  | kept {next : System} : Housekeeping s next → s.Incidental next
  | recorded {t : System} {c : CallId} {call : Call} : Housekeeping s t → call.isPlain = true →
      s.leaseOf (.call c) = none → c < t.fresh → s.present = true →
      s.Incidental (t.setCall c call)
  | givenUp : (∀ c call, s.calls.get? c = some call → call.isWaiting = false) →
      s.Incidental { s.disableAll with present := false, registry := {} }

theorem recordInspection_plain (s : System) (c : CallId) (inspecting : Inspecting) :
    ∃ call : Call, call.isPlain = true ∧ s.recordInspection c inspecting = s.setCall c call := by
  cases inspecting <;> exact ⟨_, rfl, rfl⟩

/-- A new call that has nothing to do with leases. -/
theorem Incidental.begun (orderly : s.Orderly) (present : s.present = true)
    (recorded : ∃ t call, Housekeeping s.newId.2 t ∧ call.isPlain = true ∧
      next = t.setCall s.fresh call) : s.Incidental next := by
  obtain ⟨t, call, kept, plain, rfl⟩ := recorded
  have begun : Housekeeping s t := (Housekeeping.newId s).trans kept
  exact .recorded begun plain orderly.freshCall (Nat.lt_of_succ_le kept.fresh) present

/-- A call on record stays on record. -/
theorem Incidental.recalled {c : CallId} {call : Call} (orderly : s.Orderly)
    (found : s.calls.get? c = some call) (waiting : call.isWaiting = true)
    (free : call.lease? = none)
    (recorded : ∃ t call', Housekeeping s t ∧ call'.isPlain = true ∧
      next = t.setCall c call') : s.Incidental next := by
  obtain ⟨t, call', kept, plain, rfl⟩ := recorded
  refine .recorded kept plain ?_ ?_ (orderly.present found waiting)
  · exact (congrArg (Option.bind · Call.lease?) found).trans free
  · exact Nat.lt_of_lt_of_le (orderly.calls c call found) kept.fresh

/-- What is left alone by all that is no transaction. -/
structure Untouched (s next : System) : Prop where
  counts : Books.Counts [.unhealthy] [] s.books next.books
  store : next.books.store = s.books.store
  closed : next.closed = s.closed
  leases : next.leases = s.leases
  jobs : s.AddsJobs next

theorem Incidental.untouched (incidental : s.Incidental next) : s.Untouched next := by
  have housekept {t : System} (kept : Housekeeping s t) : s.Untouched t :=
    ⟨kept.counts, kept.books.store_eq, kept.closed, kept.leases, kept.added⟩
  cases incidental with
  | kept kept => exact housekept kept
  | recorded kept _ _ _ _ =>
      obtain ⟨counts, store, closed, leases, jobs⟩ := housekept kept
      exact ⟨counts, store, closed, leases, jobs⟩
  | givenUp _ =>
      obtain ⟨counts, store, closed, leases, jobs⟩ := housekept (.disableAll s)
      exact ⟨counts, store, closed, leases, jobs⟩

/-- An action does what a transaction does, or is incidental. -/
def Performs (s : System) (a : Action) (next : System) : Prop :=
  (∃ transaction, s.transaction? a = some transaction ∧ s.Transacts a transaction next) ∨
    s.transaction? a = none ∧ s.Incidental next

namespace Performs

theorem refl (none : s.transaction? a = none) : s.Performs a s :=
  Or.inr ⟨none, .kept (.refl s)⟩

/-- Callers who have given the pool up cannot do anything to it. -/
theorem called (absent : s.present = false → s.transaction? a = none)
    (present : s.present = true → s.Performs a (s.callPool a))
    (performed : s.perform a = if s.present then s.callPool a else s) :
    s.Performs a (s.perform a) := by
  rw [performed]
  split
  · rename_i there
    exact present there
  · rename_i gone
    exact refl (absent (Bool.eq_false_iff.mpr gone))

theorem begun (none : s.transaction? a = none) (orderly : s.Orderly)
    (begins : s.present = true → ∃ t call, Housekeeping s.newId.2 t ∧ call.isPlain = true ∧
      s.callPool a = t.setCall s.fresh call)
    (performed : s.perform a = if s.present then s.callPool a else s) :
    s.Performs a (s.perform a) :=
  called (fun _ => none)
    (fun present => Or.inr ⟨none, .begun orderly present (begins present)⟩) performed

theorem dropPool (s : System) : s.Performs .dropPool (s.perform .dropPool) := by
  refine called (fun _ => rfl) (fun _ => Or.inr ⟨rfl, ?_⟩) rfl
  simp only [callPool, System.dropPool]
  split
  · exact .kept (.refl s)
  · rename_i idle
    refine .givenUp fun c call found => Bool.eq_false_iff.mpr ?_
    exact List.any_eq_false.mp (Bool.eq_false_iff.mpr idle) call (Table.mem_values_of_get? found)

theorem cancel (orderly : s.Orderly) (c : CallId) :
    s.Performs (.cancel c) (s.perform (.cancel c)) := by
  cases found : s.calls.get? c with
  | none =>
      simp only [perform, found]
      exact refl (by simp only [transaction?, found])
  | some call =>
      have given {t : System} (none : s.transaction? (.cancel c) = none)
          (waiting : call.isWaiting = true) (free : call.lease? = Option.none)
          (kept : Housekeeping s t) : s.Performs (.cancel c) (t.setCall c .cancelled) :=
        Or.inr ⟨none, .recalled orderly found waiting free ⟨t, .cancelled, kept, rfl, rfl⟩⟩
      simp only [perform, found]
      cases call with
      | getting acquisition =>
          cases acquisition with
          | checking l =>
              exact Or.inl ⟨.abandoned c l, by simp only [transaction?, found], .abandoned found⟩
          | _ => exact given (by simp only [transaction?, found]) rfl rfl (.refl s)
      | inspecting i =>
          exact given (by simp only [transaction?, found]) rfl rfl
            (.change (.letGoAll _ i.members) (.letGoAll _ i.members))
      | joining => exact given (by simp only [transaction?, found]) rfl rfl (.refl s)
      | finished | cancelled => exact refl (by simp only [transaction?, found])

theorem answer (orderly : s.Orderly) (c : CallId) (verdict : Verdict) :
    s.Performs (.answer c verdict) (s.perform (.answer c verdict)) := by
  cases found : s.calls.get? c with
  | none =>
      simp only [perform, found]
      exact refl (by simp only [transaction?, found])
  | some call =>
      simp only [perform, found]
      cases call with
      | getting acquisition =>
          cases acquisition with
          | checking l =>
              exact Or.inl ⟨.checked c l verdict, by simp only [transaction?, found],
                .checked verdict found⟩
          | _ => exact refl (by simp only [transaction?, found])
      | inspecting i =>
          obtain ⟨call, plain, recorded⟩ := recordInspection_plain
            { s with books := (s.books.inspectChecked i verdict).2 } c
              (s.books.inspectChecked i verdict).1
          exact Or.inr ⟨by simp only [transaction?, found], .recalled orderly found rfl rfl
            ⟨_, call, .change (.inspectChecked _ i verdict)
              (.inspectChecked _ i verdict (by simp)), plain, recorded⟩⟩
      | _ => exact refl (by simp only [transaction?, found])

theorem supply (s : System) (c : CallId) (supply : Supply) :
    s.Performs (.supply c supply) (s.perform (.supply c supply)) := by
  simp only [perform]
  split
  · rename_i generation call found
    exact Or.inl ⟨.supplied c generation call supply, by simp only [transaction?, found],
      .supplied supply found⟩
  · exact refl (by simp only [transaction?])

theorem resume (orderly : s.Orderly) (c : CallId) :
    s.Performs (.resume c) (s.perform (.resume c)) := by
  simp only [perform]
  split
  · rename_i job after found
    split
    · exact Or.inr ⟨rfl, .recalled orderly found rfl rfl
        (afterJoin_housekeeping (orderly.present found rfl) c _ after)⟩
    · exact refl rfl
  · exact refl rfl

theorem signal (s : System) (job : JobId) (signal : Signal) :
    s.Performs (.signal job signal) (s.perform (.signal job signal)) := by
  simp only [perform, signalJob]
  split
  · rename_i absent
    exact refl (by simp only [transaction?, absent])
  · rename_i j found
    split
    · rename_i deaf
      exact refl (by simp [transaction?, found, deaf])
    · rename_i work answered
      exact Or.inl ⟨.turned job j signal, by simp [transaction?, found, answered],
        .turned found answered⟩

end Performs

theorem perform_cases (orderly : s.Orderly) (a : Action) : s.Performs a (s.perform a) := by
  cases a with
  | get =>
      exact .called (fun gone => if_neg (by simp [gone]))
        (fun present => Or.inl ⟨.get, if_pos present, .get present⟩) rfl
  | tryGet =>
      exact .called (fun gone => if_neg (by simp [gone]))
        (fun present => Or.inl ⟨.tryGet, if_pos present, .tryGet⟩) rfl
  | clear =>
      exact .called (fun gone => if_neg (by simp [gone]))
        (fun present => Or.inl ⟨.clear, if_pos present, .clear⟩) rfl
  | tune tuning =>
      exact .called (fun _ => rfl)
        (fun _ => Or.inr ⟨rfl, .kept (.change (.aside rfl rfl rfl) (.aside rfl rfl))⟩) rfl
  | inspect order =>
      obtain ⟨call, plain, recorded⟩ := recordInspection_plain
        { s.newId.2 with books := (s.books.inspect order).2 } s.fresh (s.books.inspect order).1
      exact .begun rfl orderly (fun _ => ⟨_, call,
        .change (.inspect _ _) (.inspect _ _ (by simp)), plain, recorded⟩) rfl
  | start kind =>
      exact .begun rfl orderly (fun present =>
        startJob_housekeeping (s := s.newId.2) present s.fresh kind) rfl
  | stop kind =>
      exact .begun rfl orderly (fun _ => stopEach_housekeeping _ s.fresh [kind]) rfl
  | stopAll =>
      exact .begun rfl orderly (fun _ => stopEach_housekeeping _ s.fresh JobKind.all) rfl
  | dropPool => exact .dropPool s
  | dropLease id =>
      simp only [perform]
      split
      · rename_i l found
        exact Or.inl ⟨.dropped id l, by simp only [transaction?, found, Option.map_some],
          .dropped found⟩
      · rename_i absent
        exact .refl (by simp only [transaction?, absent, Option.map_none])
  | detach id =>
      simp only [perform]
      split
      · rename_i l found
        exact Or.inl ⟨.detached id l, by simp only [transaction?, found, Option.map_some],
          .detached found⟩
      · rename_i absent
        exact .refl (by simp only [transaction?, absent, Option.map_none])
  | hold id =>
      simp only [perform]
      split
      · exact Or.inr ⟨rfl, .kept ((Housekeeping.change (.take _ _) (.take _ _)).trans (.newId _))⟩
      · exact .refl rfl
  | letGo id =>
      simp only [perform]
      split
      · exact Or.inr ⟨rfl, .kept (.change (.letGo _ _) (.letGo _ _))⟩
      · exact .refl rfl
  | cancel c => exact .cancel orderly c
  | answer c verdict => exact .answer orderly c verdict
  | supply c supply => exact .supply s c supply
  | resume c => exact .resume orderly c
  | signal job signal => exact .signal s job signal
  | pass | setSink => exact Or.inr ⟨rfl, .kept (.change (.aside rfl rfl rfl) (.aside rfl rfl))⟩

theorem perform_eq_self (only : a.onlyTransacts = true) (none : s.transaction? a = none) :
    s.perform a = s := by
  cases a with
  | get | tryGet | clear =>
      simp only [transaction?, ite_eq_right_iff, reduceCtorEq, imp_false] at none
      exact if_neg none
  | dropLease id | detach id =>
      have absent : s.leases.get? id = Option.none := Option.map_eq_none_iff.mp none
      simp only [perform, absent]
  | supply c supply =>
      simp only [perform]
      split
      · simp_all [transaction?]
      · rfl
  | signal job signal =>
      simp only [perform, signalJob]
      split
      · rfl
      · split
        · rfl
        · simp_all [transaction?]
  | _ => contradiction

end System
end ResourcePool
