import ResourcePool.Proofs.Jobs.Calls
import ResourcePool.Proofs.System.Selection

/-! Full reports of a population. A report is about the members at its begin: each of them is
checked once, whatever becomes of it meanwhile, and nothing is changed but the last reading of the
number of unhealthy ones. -/
namespace ResourcePool

/-- Whether a call inspects the population or has counted it. -/
def Call.inspects : Call → Bool
  | .inspecting _ | .finished (.counted _) => true
  | _ => false

/-- What is put on record of an inspection. -/
def Inspecting.call : Inspecting → Call
  | .checking inspection => .inspecting inspection
  | .done census => .finished (.counted census)
  | .panicked text => .finished (.panicked text)

/-- How many of some members are not known to be sound by their answers. -/
def unsound (answers : List (Resource × Verdict)) : Nat := answers.countP (·.2 ≠ .sound)

/-- How far a report of a population has come by the answers that it got. Its members are checked
one after another, each once, if there is a check at all. -/
inductive Surveys (store : Store Resource) (members : List Resource) (checked : Bool)
    (answers : List (Resource × Verdict)) : Call → Prop
  | checking {i : Inspection} : checked = true →
      answers.map Prod.fst ++ i.pending = members → i.pending ≠ [] →
      i.population = store.population → i.unhealthy = unsound answers →
      Surveys store members checked answers (.inspecting i)
  | counted : answers.map Prod.fst = (if checked then members else []) →
      Surveys store members checked answers (.finished (.counted
        ⟨store.population.size, store.population.available, unsound answers⟩))
  | unwound {text : String} {early : List (Resource × Verdict)} {member : Resource} :
      answers = early ++ [(member, .panicked text)] → answers.map Prod.fst <+: members →
      Surveys store members checked answers (.finished (.panicked text))
  | givenUp : answers.map Prod.fst <+: members → Surveys store members checked answers .cancelled

namespace Surveys
variable {store : Store Resource} {members : List Resource} {checked : Bool}
variable {answers : List (Resource × Verdict)}

/-- A report goes on to the next member, or is complete where none is left. -/
theorem next (b : Books) {i : Inspection} (check : checked = true)
    (whole : answers.map Prod.fst ++ i.pending = members)
    (population : i.population = store.population) (unhealthy : i.unhealthy = unsound answers) :
    Surveys store members checked answers (b.inspectNext i).1.call := by
  unfold Books.inspectNext
  cases waiting : i.pending with
  | cons member rest => exact .checking check whole (by simp [waiting]) population unhealthy
  | nil =>
      rw [waiting, List.append_nil] at whole
      simp only [Inspecting.call, population, unhealthy]
      exact .counted (by rw [check, if_pos rfl, whole])

theorem begun (b : Books) (order : List Resource) :
    Surveys b.store (b.store.membersIn order) b.settings.hasCheck [] (b.inspect order).1.call := by
  unfold Books.inspect
  cases check : b.settings.hasCheck with
  | false => exact .counted rfl
  | true => exact .next _ rfl rfl rfl rfl

theorem answer (b : Books) {i : Inspection}
    (surveys : Surveys store members checked answers (.inspecting i)) (verdict : Verdict) :
    ∃ member, i.pending.head? = some member ∧
      Surveys store members checked (answers ++ [(member, verdict)])
        (b.inspectChecked i verdict).1.call := by
  obtain ⟨check, whole, some, population, unhealthy⟩ := surveys
  obtain ⟨member, rest, waiting⟩ := List.exists_cons_of_ne_nil some
  refine ⟨member, by rw [waiting, List.head?_cons], ?_⟩
  have answered : (answers ++ [(member, verdict)]).map Prod.fst ++ i.pending.tail =
      members := by
    rw [← whole, waiting]
    simp
  cases verdict with
  | sound => exact next b check answered population (by simp [unhealthy, unsound])
  | broken | failed => exact next b check answered population (by simp [unhealthy, unsound])
  | panicked text => exact .unwound rfl (answered ▸ List.prefix_append _ _)

theorem cancelled {i : Inspection}
    (surveys : Surveys store members checked answers (.inspecting i)) :
    Surveys store members checked answers .cancelled := by
  obtain ⟨_, whole, _, _, _⟩ := surveys
  exact .givenUp (whole ▸ List.prefix_append _ _)

/-- A report that is complete is about the members at its begin, each of them checked once. -/
theorem census {census : Census} (sound : store.Sound) (all : members.Perm store.members)
    (surveys : Surveys store members checked answers (.finished (.counted census))) :
    census = ⟨store.population.size, store.population.available, unsound answers⟩ ∧
      (answers.map Prod.fst).Perm (if checked then store.members else []) ∧
      census.available ≤ census.size ∧ census.unhealthy ≤ census.size := by
  cases surveys with
  | counted whole =>
      have each : (answers.map Prod.fst).Perm (if checked then store.members else []) := by
        rw [whole]
        split
        · exact all
        · exact .refl _
      refine ⟨rfl, each, sound.available_le_size, ?_⟩
      have count : answers.length = (if checked then store.members else []).length := by
        rw [← each.length_eq, List.length_map]
      have size : store.population.size = store.members.length := by
        rw [Store.members, List.length_map]
        exact Table.size_eq_length_values _
      have some : unsound answers ≤ answers.length := List.countP_le_length
      refine Nat.le_trans some ?_
      rw [count, size]
      split
      · exact Nat.le_refl _
      · exact Nat.zero_le _

end Surveys

namespace System
variable {s t next : System} {a : Action} {c : CallId} {call : Call} {i : Inspection}

/-- The check that an action ends while a report waits for it. -/
def answer? (s : System) (c : CallId) : Action → Option (Resource × Verdict)
  | .answer own verdict =>
      match s.calls.get? c with
      | some (.inspecting i) =>
          if own = c ∧ s.books.terminated = false then i.pending.head?.map (·, verdict) else none
      | _ => none
  | _ => none

/-- The checks that end for a report in the course of a run. -/
def answers (s : System) (c : CallId) : List Action → List (Resource × Verdict)
  | [] => []
  | a :: rest => (s.answer? c a).toList ++ (s.step a).answers c rest

/-- Whether an action is one of a report: its begin, the end of a check that it waits for, or that
it is given up. -/
def Inspects (s : System) : Action → Prop
  | .inspect _ => s.present = true
  | .answer c _ | .cancel c => ∃ i, s.calls.get? c = some (.inspecting i)
  | _ => False

/-- Whether an action completes the report of a call. -/
def Completes (s : System) (a : Action) (c : CallId) (census : Census) : Prop :=
  s.calls.get? c ≠ some (.finished (.counted census)) ∧
    (s.step a).calls.get? c = some (.finished (.counted census))

/-- Whether no report is completed in the course of a run. -/
def CompletesNone (s : System) (actions : List Action) : Prop :=
  ∀ early a late, actions = early ++ a :: late → ∀ c census, ¬ (s.run early).Completes a c census

theorem recordInspection_eq (s : System) (c : CallId) (inspecting : Inspecting) :
    s.recordInspection c inspecting = s.setCall c inspecting.call := by
  cases inspecting <;> rfl

/-! ## What is apart from reports -/

/-- No report begins, goes on or ends. -/
structure Apart (s next : System) : Prop where
  reading : next.books.counters.get .unhealthy = s.books.counters.get .unhealthy
  calls : ∀ c call, call.inspects = true →
    (next.calls.get? c = some call ↔ s.calls.get? c = some call)

/-- A call is put on record that has nothing to do with reports, as before. -/
def Dictates (s : System) (c : CallId) (calls : Table CallId Call) : Prop :=
  ∃ call, call.inspects = false ∧ calls = s.calls.set c call

namespace Apart

theorem aside (reading : next.books.counters.get .unhealthy = s.books.counters.get .unhealthy)
    (calls : next.calls = s.calls) : s.Apart next :=
  ⟨reading, fun _ _ _ => by rw [calls]⟩

theorem refl (s : System) : s.Apart s := aside rfl rfl

theorem recorded (reading : next.books.counters.get .unhealthy = s.books.counters.get .unhealthy)
    (other : ∀ call, s.calls.get? c = some call → call.inspects = false)
    (dictates : s.Dictates c next.calls) : s.Apart next := by
  obtain ⟨later, apart, calls⟩ := dictates
  refine ⟨reading, fun c' call inspects => ?_⟩
  rw [calls, Table.get?_set]
  split
  · rename_i same
    subst same
    constructor
    · intro own
      cases Option.some.inj own
      cases inspects.symm.trans apart
    · intro before
      cases inspects.symm.trans (other call before)
  · rfl

theorem trans (first : s.Apart t) (second : t.Apart next) : s.Apart next :=
  ⟨second.reading.trans first.reading, fun c call inspects =>
    (second.calls c call inspects).trans (first.calls c call inspects)⟩

end Apart

theorem recordGet_dictates (s : System) (c : CallId) (acquisition : Acquisition) :
    s.Dictates c (s.recordGet c acquisition).calls := by
  cases acquisition <;> exact ⟨_, rfl, rfl⟩

theorem stopEach_dictates (s : System) (c : CallId) (kinds : List JobKind) :
    (s.stopEach c kinds).books = s.books ∧ s.Dictates c (s.stopEach c kinds).calls := by
  obtain ⟨_, stopped⟩ | ⟨_, _, _, _, _, _, _, taken, stopped⟩ := s.stopEach_cases c kinds
  · rw [stopped]
    exact ⟨rfl, _, rfl, rfl⟩
  · obtain ⟨_, rfl⟩ := unregister_eq_some taken
    rw [stopped]
    exact ⟨rfl, _, rfl, rfl⟩

theorem spawn_aside (s : System) (kind : JobKind) :
    (s.spawn kind).books = s.books ∧ (s.spawn kind).calls = s.calls := by
  obtain ⟨_, _, spawned⟩ := s.spawn_eq kind
  rw [spawned]
  exact ⟨rfl, rfl⟩

theorem startJob_dictates (s : System) (c : CallId) (kind : JobKind) :
    (s.startJob c kind).books = s.books ∧ s.Dictates c (s.startJob c kind).calls := by
  obtain ⟨_, started⟩ | ⟨_, started⟩ | ⟨_, _, taken, started⟩ := s.startJob_cases c kind
  · rw [started]
    exact ⟨rfl, _, rfl, rfl⟩
  · obtain ⟨books, calls⟩ := s.spawn_aside kind
    rw [started]
    exact ⟨books, _, rfl, congrArg (Table.set · c _) calls⟩
  · obtain ⟨_, rfl⟩ := unregister_eq_some taken
    rw [started]
    exact ⟨rfl, _, rfl, rfl⟩

theorem afterJoin_dictates (s : System) (c : CallId) (panic : Option String) (after : AfterJoin) :
    (s.afterJoin c panic after).books = s.books ∧
      s.Dictates c (s.afterJoin c panic after).calls := by
  cases panic with
  | some text => exact ⟨rfl, _, rfl, rfl⟩
  | none =>
      cases after with
      | start kind =>
          obtain ⟨books, calls⟩ := s.spawn_aside kind
          exact ⟨books, _, rfl, congrArg (Table.set · c _) calls⟩
      | stop rest => exact s.stopEach_dictates c rest

theorem unhealthy_not_mem (transaction : Transaction) :
    Counter.unhealthy ∉ transaction.counters := by
  cases transaction with
  | checked _ _ verdict => cases verdict <;> simp [Transaction.counters, Verdict.counters]
  | supplied _ _ _ supply => cases supply <;> simp [Transaction.counters, Supply.counters]
  | turned _ _ signal => cases signal <;> simp [Transaction.counters, Signal.counters]
  | _ => simp [Transaction.counters]

theorem Transacts.apart {transaction : Transaction} (orderly : s.Orderly)
    (transacts : s.Transacts a transaction next) : s.Apart next := by
  have reading := transacts.counts.others .unhealthy (unhealthy_not_mem _)
  have known {c : CallId} {before : Call} (found : s.calls.get? c = some before)
      (other : before.inspects = false) :
      ∀ call, s.calls.get? c = some call → call.inspects = false := by
    intro call stored
    cases found.symm.trans stored
    exact other
  cases transacts with
  | get present =>
      refine .recorded reading (fun call stored => ?_) (recordGet_dictates _ s.fresh _)
      exact absurd (orderly.calls _ call stored) (Nat.lt_irrefl _)
  | tryGet =>
      refine .aside reading ?_
      unfold callPool
      rcases s.books.tryAcquire with ⟨_ | lease, books⟩ <;> rfl
  | clear | dropped | detached | turned => exact .aside reading rfl
  | abandoned found => exact .recorded reading (known found rfl) ⟨_, rfl, rfl⟩
  | checked _ found | supplied _ found =>
      exact .recorded reading (known found rfl) (recordGet_dictates _ _ _)

/-! ## Steps -/

/-- A step of a report, or one that is apart from all of them. -/
inductive Concerns (s : System) : Action → System → Prop
  | begun (order : List Resource) : s.present = true → s.Concerns (.inspect order)
      (({ s.newId.2 with books := (s.books.inspect order).2 } : System).setCall s.fresh
        (s.books.inspect order).1.call)
  | answered {c : CallId} {i : Inspection} (verdict : Verdict) :
      s.calls.get? c = some (.inspecting i) → s.Concerns (.answer c verdict)
        (({ s with books := (s.books.inspectChecked i verdict).2 } : System).setCall c
          (s.books.inspectChecked i verdict).1.call)
  | givenUp {c : CallId} {i : Inspection} : s.calls.get? c = some (.inspecting i) →
      s.Concerns (.cancel c)
        (({ s with books := s.books.letGoAll i.members } : System).setCall c .cancelled)
  | apart {a : Action} {next : System} : ¬ s.Inspects a → s.Apart next → s.Concerns a next

namespace Concerns

theorem refl (other : ¬ s.Inspects a) : s.Concerns a s := .apart other (.refl s)

theorem called (other : ¬ s.Inspects a) (apart : s.Apart (s.callPool a)) :
    s.Concerns a (if s.present then s.callPool a else s) := by
  split
  · exact .apart other apart
  · exact .refl other

/-- A new call for something else. -/
theorem opened (other : ¬ s.Inspects a) (orderly : s.Orderly)
    (outcome : (s.callPool a).books = s.books ∧ s.Dictates s.fresh (s.callPool a).calls) :
    s.Concerns a (if s.present then s.callPool a else s) := by
  obtain ⟨books, dictates⟩ := outcome
  refine called other (.recorded (congrArg (·.counters.get .unhealthy) books) ?_ dictates)
  exact fun call stored => absurd (orderly.calls _ call stored) (Nat.lt_irrefl _)

theorem transacted {transaction : Transaction} (orderly : s.Orderly)
    (same : s.transaction? a = some transaction) (transacts : s.Transacts a transaction next) :
    s.Concerns a next := by
  refine .apart ?_ (transacts.apart orderly)
  intro inspects
  cases a with
  | inspect => contradiction
  | answer | cancel =>
      obtain ⟨i, found⟩ := inspects
      simp [transaction?, found] at same
  | _ => exact inspects

theorem inspect (s : System) (order : List Resource) :
    s.Concerns (.inspect order) (s.perform (.inspect order)) := by
  simp only [perform]
  split
  · rename_i present
    simp only [callPool, recordInspection_eq]
    exact .begun order present
  · rename_i absent
    exact .refl absent

theorem dropPool (s : System) : s.Concerns .dropPool (s.perform .dropPool) := by
  refine called id (.aside ?_ s.dropPool_calls)
  simp only [callPool, System.dropPool]
  split
  · rfl
  · rw [disableAll_eq]

theorem cancel (none : s.transaction? (.cancel c) = none) :
    s.Concerns (.cancel c) (s.perform (.cancel c)) := by
  simp only [perform]
  split
  · rename_i call found
    have known {other : Call} (stored : s.calls.get? c = some other) : other = call :=
      Option.some.inj (stored.symm.trans found)
    have other (plain : call.inspects = false) : ¬ s.Inspects (.cancel c) := by
      rintro ⟨i, stored⟩
      cases known stored
      contradiction
    have given (plain : call.inspects = false) :
        s.Concerns (.cancel c) (s.setCall c .cancelled) :=
      .apart (other plain) (.recorded rfl (fun _ stored => known stored ▸ plain) ⟨_, rfl, rfl⟩)
    cases call with
    | getting acquisition =>
        cases acquisition with
        | checking l => simp [transaction?, found] at none
        | _ => exact given rfl
    | inspecting i => exact .givenUp found
    | joining => exact given rfl
    | finished | cancelled =>
        refine .refl ?_
        rintro ⟨i, stored⟩
        cases known stored
  · rename_i absent
    refine .refl ?_
    rintro ⟨i, stored⟩
    cases absent.symm.trans stored

theorem answer {verdict : Verdict} (none : s.transaction? (.answer c verdict) = none) :
    s.Concerns (.answer c verdict) (s.perform (.answer c verdict)) := by
  simp only [perform]
  split
  · rename_i found
    simp [transaction?, found] at none
  · rename_i i found
    rw [recordInspection_eq]
    exact .answered verdict found
  · rename_i other
    refine .refl ?_
    rintro ⟨i, stored⟩
    exact other i stored

theorem resume (s : System) (c : CallId) : s.Concerns (.resume c) (s.perform (.resume c)) := by
  simp only [perform]
  split
  · rename_i job after found
    split
    · rename_i panic _
      obtain ⟨books, dictates⟩ := s.afterJoin_dictates c panic after
      refine .apart id (.recorded (congrArg (·.counters.get .unhealthy) books) ?_ dictates)
      intro call stored
      cases found.symm.trans stored
      rfl
    · exact .refl id
  · exact .refl id

end Concerns

theorem perform_concerns (orderly : s.Orderly) (a : Action) : s.Concerns a (s.perform a) := by
  obtain ⟨_, same, transacts⟩ | ⟨none, _⟩ := perform_cases orderly a
  · exact .transacted orderly same transacts
  cases a with
  | get | tryGet | clear | dropLease | detach | supply | signal =>
      rw [perform_eq_self rfl none]
      exact .refl id
  | hold id | letGo id =>
      simp only [perform]
      split
      · exact .apart not_false (.aside rfl rfl)
      · exact .refl not_false
  | inspect order => exact .inspect s order
  | start kind => exact .opened id orderly (s.newId.2.startJob_dictates s.fresh kind)
  | stop kind => exact .opened id orderly (s.newId.2.stopEach_dictates s.fresh [kind])
  | stopAll => exact .opened id orderly (s.newId.2.stopEach_dictates s.fresh JobKind.all)
  | dropPool => exact .dropPool s
  | cancel c => exact .cancel none
  | answer c verdict => exact .answer none
  | resume c => exact .resume s c
  | tune tuning => exact .called id (.aside rfl rfl)
  | pass | setSink => exact .apart not_false (.aside rfl rfl)

theorem settle_apart (s : System) : s.Apart s.settle :=
  .aside (s.settle_counts.others .unhealthy List.not_mem_nil) s.settle_registry.2.2

theorem Concerns.settle (concerns : s.Concerns a next) (orderly : s.Orderly) :
    s.Concerns a next.settle := by
  have stays {t : System} (concerns : s.Concerns a t) (present : t.present = true) :
      s.Concerns a t.settle := (settle_present present).symm ▸ concerns
  cases concerns with
  | begun order present => exact stays (.begun order present) present
  | answered verdict found => exact stays (.answered verdict found) (orderly.present found rfl)
  | givenUp found => exact stays (.givenUp found) (orderly.present found rfl)
  | apart other apart => exact .apart other (apart.trans next.settle_apart)

theorem step_concerns (orderly : s.Orderly) (running : s.books.terminated = false) (a : Action) :
    s.Concerns a (s.step a) := by
  have performed : s.step a = (s.perform a).settle := by
    rw [step, running]
    rfl
  rw [performed]
  exact (perform_concerns orderly a).settle orderly

theorem step_inspect (present : s.present = true) (running : s.books.terminated = false)
    (order : List Resource) :
    s.step (.inspect order) =
      ({ s.newId.2 with books := (s.books.inspect order).2 } : System).setCall s.fresh
        (s.books.inspect order).1.call := by
  have performed : s.step (.inspect order) = (s.perform (.inspect order)).settle := by
    rw [step, running]
    rfl
  rw [performed]
  simp only [perform, present, if_true, callPool, recordInspection_eq]
  exact settle_present present

/-! ## What a report changes -/

/-- Neither the store nor the journal nor any counter but the reading of unhealthy members is
different afterwards. -/
structure Observes (before after : Books) : Prop where
  store : after.store = before.store
  journal : after.journal = before.journal
  counters : ∀ counter, counter ≠ .unhealthy →
    after.counters.get counter = before.counters.get counter

theorem Observes.of {b after : Books} (changes : Books.Changes (fun _ => False) b after)
    (counts : Books.Counts [.unhealthy] [] b after) (journal : after.journal = b.journal) :
    Observes b after :=
  ⟨changes.store_eq, journal, fun counter other => counts.others counter (by simpa using other)⟩

theorem journal_inspectNext (b : Books) (i : Inspection) :
    (b.inspectNext i).2.journal = b.journal := by
  unfold Books.inspectNext
  split
  · rfl
  · exact (b.letGoAll_aside i.members).2.2

theorem observes_inspect (b : Books) (order : List Resource) : Observes b (b.inspect order).2 :=
  .of (.inspect b order) (.inspect b order (List.mem_singleton.mpr rfl))
    ((journal_inspectNext _ _).trans (b.takeAll_aside _).2.2)

theorem observes_inspectChecked (b : Books) (i : Inspection) (verdict : Verdict) :
    Observes b (b.inspectChecked i verdict).2 := by
  refine .of (.inspectChecked b i verdict) (.inspectChecked b i verdict (by simp)) ?_
  cases verdict with
  | sound | broken | failed => exact journal_inspectNext b _
  | panicked => exact (b.letGoAll_aside i.members).2.2

theorem Concerns.observes (concerns : s.Concerns a next) (inspects : s.Inspects a) :
    Observes s.books next.books := by
  cases concerns with
  | begun order present => exact observes_inspect s.books order
  | answered verdict found => exact observes_inspectChecked s.books _ verdict
  | givenUp found =>
      exact .of (.letGoAll _ _) (.letGoAll _ _) (s.books.letGoAll_aside _).2.2
  | apart other _ => exact absurd inspects other

/-! ## The last reading -/

/-- The number of unhealthy members is read off a report that is complete, and is otherwise the
one read before. -/
def Reads (b : Books) : Inspecting × Books → Prop
  | (.done census, after) => after.counters.get .unhealthy = .ofNat census.unhealthy
  | (_, after) => after.counters.get .unhealthy = b.counters.get .unhealthy

theorem reads_inspectNext (b : Books) (i : Inspection) : Reads b (b.inspectNext i) := by
  unfold Books.inspectNext
  split <;> rfl

theorem reads_inspect (b : Books) (order : List Resource) : Reads b (b.inspect order) := by
  unfold Books.inspect
  simp only
  generalize b.store.membersIn order = members
  have taken : Books.Counts [] [] b (b.takeAll members) := .takeAll b _
  have same := taken.others .unhealthy List.not_mem_nil
  have reads := reads_inspectNext (b.takeAll members)
    ⟨b.store.population, members, if b.settings.hasCheck then members else [], 0⟩
  revert reads
  generalize (b.takeAll members).inspectNext _ = outcome
  rcases outcome with ⟨_ | _ | _, after⟩
  · exact fun reads => reads.trans same
  · exact id
  · exact fun reads => reads.trans same

theorem reads_inspectChecked (b : Books) (i : Inspection) (verdict : Verdict) :
    Reads b (b.inspectChecked i verdict) := by
  cases verdict with
  | sound | broken | failed => exact reads_inspectNext b _
  | panicked =>
      have kept : Books.Counts [] [] b (b.letGoAll i.members) := .letGoAll b _
      exact kept.others .unhealthy List.not_mem_nil

/-- What is put on record of a report is complete only with the reading that it leaves. -/
structure Readable (s next : System) : Prop where
  completed : ∀ c census, s.calls.get? c ≠ some (.finished (.counted census)) →
    next.calls.get? c = some (.finished (.counted census)) →
    next.books.counters.get .unhealthy = .ofNat census.unhealthy
  kept : (∀ c census, next.calls.get? c = some (.finished (.counted census)) →
    s.calls.get? c = some (.finished (.counted census))) →
    next.books.counters.get .unhealthy = s.books.counters.get .unhealthy

theorem Apart.readable (apart : s.Apart next) : s.Readable next where
  completed := fun c _ before after => absurd ((apart.calls c _ rfl).mp after) before
  kept := fun _ => apart.reading

theorem Reads.readable {outcome : Inspecting × Books} (reads : Reads s.books outcome)
    (calls : t.calls = s.calls) (unfinished : ∀ census,
      s.calls.get? c ≠ some (.finished (.counted census))) :
    s.Readable (({ t with books := outcome.2 } : System).setCall c outcome.1.call) := by
  obtain ⟨inspecting, after⟩ := outcome
  have other {c' : CallId} {census : Census} (different : c ≠ c')
      (found : (t.calls.set c inspecting.call).get? c' = some (.finished (.counted census))) :
      s.calls.get? c' = some (.finished (.counted census)) := by
    rwa [Table.get?_set_of_ne _ _ different, calls] at found
  constructor
  · intro c' census before found
    by_cases same : c = c'
    · subst same
      cases inspecting with
      | done own =>
          cases (Table.get?_set_self ..).symm.trans found
          exact reads
      | checking | panicked => cases (Table.get?_set_self ..).symm.trans found
    · exact absurd (other same found) before
  · intro before
    cases inspecting with
    | done own => exact absurd (before c own (Table.get?_set_self ..)) (unfinished own)
    | checking | panicked => exact reads

theorem Concerns.readable (concerns : s.Concerns a next) (orderly : s.Orderly) :
    s.Readable next := by
  have waits {c : CallId} {i : Inspection} (found : s.calls.get? c = some (.inspecting i)) :
      ∀ census, s.calls.get? c ≠ some (.finished (.counted census)) := by
    simp [found]
  cases concerns with
  | begun order present =>
      refine (reads_inspect s.books order).readable rfl fun _ found => ?_
      exact Nat.lt_irrefl _ (orderly.calls _ _ found)
  | answered verdict found =>
      exact (reads_inspectChecked s.books _ verdict).readable rfl (waits found)
  | @givenUp c i found =>
      have reads : Reads s.books (.panicked "", s.books.letGoAll i.members) :=
        reads_inspectChecked s.books i (.panicked "")
      refine ⟨fun c' census before after => absurd ?_ before, fun _ => reads⟩
      simp only [setCall, Table.get?_set] at after
      split at after
      · cases after
      · exact after
  | apart _ apart => exact apart.readable

/-! ## Runs -/

theorem answer?_eq_none (other : ∀ i, s.calls.get? c ≠ some (.inspecting i)) (a : Action) :
    s.answer? c a = none := by
  cases a with
  | answer own verdict => simp only [answer?]
  | _ => rfl

theorem answer?_of_not_inspects (other : ¬ s.Inspects a) : s.answer? c a = none := by
  cases a with
  | answer own verdict =>
      simp only [answer?]
      split
      · rename_i i found
        refine if_neg fun same => other ?_
        exact same.1 ▸ ⟨i, found⟩
      · rfl
  | _ => rfl

section
variable {store : Store Resource} {members : List Resource} {checked : Bool}
variable {answered : List (Resource × Verdict)}

/-- Whatever happens, a report goes on by the answers that it gets. -/
theorem Orderly.survey_step (orderly : s.Orderly) (found : s.calls.get? c = some call)
    (surveys : Surveys store members checked answered call) (a : Action) :
    ∃ later, (s.step a).calls.get? c = some later ∧
      Surveys store members checked (answered ++ (s.answer? c a).toList) later := by
  have stays (none : s.answer? c a = none) (kept : (s.step a).calls.get? c = some call) :
      ∃ later, (s.step a).calls.get? c = some later ∧
        Surveys store members checked (answered ++ (s.answer? c a).toList) later := by
    rw [none, Option.toList_none, List.append_nil]
    exact ⟨call, kept, surveys⟩
  cases waits : call.isWaiting with
  | false =>
      refine stays (answer?_eq_none (fun i same => ?_) a) (step_keeps_ended orderly found waits a)
      cases found.symm.trans same
      contradiction
  | true =>
  obtain ⟨i, rfl⟩ : ∃ i, call = .inspecting i := by
    cases surveys with
    | checking => exact ⟨_, rfl⟩
    | counted | unwound | givenUp => contradiction
  cases running : s.books.terminated with
  | true =>
      refine stays ?_ ((congrArg (·.calls.get? c) (step_eq_self running a)).trans found)
      cases a with
      | answer own verdict => simp [answer?, found, running]
      | _ => rfl
  | false =>
      have concerns := step_concerns orderly running a
      generalize s.step a = next at concerns stays ⊢
      cases concerns with
      | begun order present =>
          have earlier : s.fresh ≠ c := Nat.ne_of_gt (orderly.calls c _ found)
          exact stays rfl ((Table.get?_set_of_ne _ _ earlier).trans found)
      | @answered own i' verdict stored =>
          by_cases same : own = c
          · subst same
            cases found.symm.trans stored
            obtain ⟨member, first, surveys⟩ := surveys.answer s.books verdict
            refine ⟨_, Table.get?_set_self .., ?_⟩
            simpa [answer?, found, running, first] using surveys
          · refine stays ?_ ((Table.get?_set_of_ne _ _ same).trans found)
            simp [answer?, found, same]
      | @givenUp own i' stored =>
          by_cases same : own = c
          · subst same
            refine ⟨_, Table.get?_set_self .., ?_⟩
            exact (List.append_nil answered).symm ▸ surveys.cancelled
          · exact stays rfl ((Table.get?_set_of_ne _ _ same).trans found)
      | apart other apart =>
          exact stays (answer?_of_not_inspects other) ((apart.calls c _ rfl).mpr found)

theorem Orderly.survey_run (orderly : s.Orderly) (found : s.calls.get? c = some call)
    (surveys : Surveys store members checked answered call) (actions : List Action) :
    ∃ later, (s.run actions).calls.get? c = some later ∧
      Surveys store members checked (answered ++ s.answers c actions) later := by
  induction actions generalizing s call answered with
  | nil => exact ⟨call, found, (List.append_nil answered).symm ▸ surveys⟩
  | cons a rest ih =>
      obtain ⟨later, kept, surveys⟩ := orderly.survey_step found surveys a
      have whole := ih (orderly.step a) kept surveys
      rwa [List.append_assoc] at whole

end

theorem Orderly.readable_step (orderly : s.Orderly) (a : Action) : s.Readable (s.step a) := by
  cases running : s.books.terminated with
  | true =>
      rw [step_eq_self running]
      exact (Apart.refl s).readable
  | false => exact (step_concerns orderly running a).readable orderly

theorem Orderly.reading_run {actions : List Action} (orderly : s.Orderly)
    (none : s.CompletesNone actions) :
    (s.run actions).books.counters.get .unhealthy = s.books.counters.get .unhealthy := by
  induction actions generalizing s with
  | nil => rfl
  | cons a rest ih =>
      have later : (s.step a).CompletesNone rest := fun early b late split =>
        none (a :: early) b late (congrArg (a :: ·) split)
      refine (ih (orderly.step a) later).trans ((orderly.readable_step a).kept ?_)
      intro c census completed
      by_contra before
      exact none [] a rest rfl c census ⟨before, completed⟩

/-- A report, whatever comes between its begin and its end: the members and the available slots
are counted as they are when it begins, and of those members, leased or not, each is checked once
if there is a check at all, in whichever order the report comes by them, and is unhealthy if the
answer is not that it is sound. No action of any report changes more of the books than the last
reading of the number of unhealthy members, which is the one of the report that was completed
last. -/
theorem inspect_reports (id : Nat) (settings : Settings) (sink : Sink) (order : List Resource)
    (early later : List Action) :
    let start := ofSettings id settings sink
    let s := start.run early
    let begun := s.step (.inspect order)
    let t := begun.run later
    s.present = true → s.books.terminated = false →
    (∃ call, t.calls.get? s.fresh = some call ∧
      Surveys s.books.store (s.books.store.membersIn order) s.books.settings.hasCheck
        (begun.answers s.fresh later) call) ∧
    (∀ census, t.calls.get? s.fresh = some (.finished (.counted census)) →
      let answers := begun.answers s.fresh later
      census =
        ⟨s.books.store.population.size, s.books.store.population.available, unsound answers⟩ ∧
      (answers.map Prod.fst).Perm
        (if s.books.settings.hasCheck then s.books.store.members else []) ∧
      census.available ≤ census.size ∧ census.unhealthy ≤ census.size) ∧
    ∀ before a after, early ++ .inspect order :: later = before ++ a :: after →
      let u := start.run before
      (u.Inspects a → Observes u.books (u.step a).books) ∧
      ∀ c census, u.Completes a c census → (u.step a).CompletesNone after →
        t.books.counters.unhealthy = .ofNat census.unhealthy := by
  intro start s begun t present running
  have initial : start.Orderly := orderly_ofSettings id settings sink
  have orderly : s.Orderly := initial.run early
  have opened : begun.calls.get? s.fresh = some (s.books.inspect order).1.call := by
    simp only [begun, step_inspect present running]
    exact get?_setCall ..
  obtain ⟨call, found, surveys⟩ :=
    (orderly.step (.inspect order)).survey_run opened (.begun s.books order) later
  refine ⟨⟨call, found, surveys⟩, fun census complete => ?_, fun before a after split => ?_⟩
  · cases found.symm.trans complete
    exact surveys.census orderly.custody.sound (s.books.store.membersIn_perm order)
  intro u
  have orderly' : u.Orderly := initial.run before
  constructor
  · intro inspects
    cases down : u.books.terminated with
    | true =>
        rw [step_eq_self down]
        exact ⟨rfl, rfl, fun _ _ => rfl⟩
    | false => exact (step_concerns orderly' down a).observes inspects
  · rintro c census ⟨incomplete, complete⟩ none
    have reached : t = (u.step a).run after := by
      have whole := (start.run_append early (.inspect order :: later)).symm
      rw [split, run_append] at whole
      exact whole
    rw [reached]
    exact ((orderly'.step a).reading_run none).trans
      ((orderly'.readable_step a).completed c census incomplete complete)

/-- One of two members is leased out, and the population is cleared between the two checks. The
member that came last is checked first. -/
theorem inspect_reports_cleared :
    let start := ofSettings 1 { hasCheck := true } .accepting
    let s := start.run [.get, .supply 0 .made, .get, .supply 2 .made, .dropLease 1]
    let begun := s.step (.inspect [1, 0])
    let later := [.answer 4 .broken, .clear, .answer 4 .sound]
    let t := begun.run later
    s.present = true ∧ s.books.terminated = false ∧
      begun.answers 4 later = [(1, .broken), (0, .sound)] ∧
      t.calls.get? 4 = some (.finished (.counted ⟨2, 1, 1⟩)) ∧
      t.books.store.population = ⟨0, 0⟩ ∧ t.books.counters.unhealthy = 1 := by
  obtain ⟨_, _, law⟩ := inspect_reports 1 { hasCheck := true } .accepting [1, 0]
    [.get, .supply 0 .made, .get, .supply 2 .made, .dropLease 1]
    [.answer 4 .broken, .clear, .answer 4 .sound] rfl rfl
  obtain ⟨_, reading⟩ := law [.get, .supply 0 .made, .get, .supply 2 .made, .dropLease 1,
    .inspect [1, 0], .answer 4 .broken, .clear] (.answer 4 .sound) [] rfl
  have completes := reading 4 ⟨2, 1, 1⟩ ⟨by decide, by decide⟩ (by simp [CompletesNone])
  exact ⟨rfl, rfl, by decide, by decide, by decide, completes⟩

end System
end ResourcePool
