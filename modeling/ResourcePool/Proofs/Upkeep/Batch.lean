import ResourcePool.Proofs.Books.Account
import ResourcePool.Proofs.Upkeep.Counting

/-! What becomes of the factory calls of a batch. Each that ended is counted, or waits in the
batch to be, or is lost with a batch that a refused report cuts short. -/
namespace ResourcePool
open Books (Counts)

variable {b : Books} {counter : Counter} {counted : List Counter}

theorem Supply.countedAs_of_error {supply : Supply} {error : String}
    (failed : supply.error? = some error) : supply.countedAs = .factoryFailures := by
  cases supply with
  | made => contradiction
  | failed | panicked => rfl

theorem Work.Counts.account_eq {α : Type} {w : Work α} (counts : Work.Counts counted w)
    (spared : counter ∉ counted) (b : Books) (calls : List (Resource × Supply)) :
    (w.after b).2.account counter calls = b.account counter calls :=
  (counts b).account_eq spared calls

namespace Keeper

/-- Ended calls of a batch that are not counted so far. -/
def Batch.unsettled (batch : Batch) : List (Resource × Supply) :=
  settled batch.made ++ batch.ended

/-- The sink's refusal to hear of a call that failed. -/
def refusal? (needed : Nat) (supply : Supply) (b : Books) : Option Refusal :=
  supply.error?.bind fun error =>
    ((b.count .factoryFailures 1).offer (.creationFailed needed error)).1

/-- Ended calls that are lost when a batch is cut short because the sink refuses to hear of one
that failed: all that were made, and the failed ones that the keeper did not come to. -/
def Batch.lost (batch : Batch) (call : Resource) (supply : Supply) (b : Books) :
    List (Resource × Supply) :=
  if (refusal? batch.needed supply b).isSome then (batch.join call supply).unsettled else []

/-! ## Taking note of ended calls -/

theorem madeIn_append (early late : List (Resource × Supply)) :
    madeIn (early ++ late) = madeIn early ++ madeIn late := by
  simp [madeIn]

theorem logFailure_after (needed : Nat) (error : String) (made : List Resource) (b : Books) :
    (logFailure needed error made).after b =
      match (b.count .factoryFailures 1).offer (.creationFailed needed error) with
      | (none, left) => (.ok (), left)
      | (some refusal, left) => (.error (.logging refusal), left.letGoAll made) := by
  unfold logFailure
  rw [Work.after_bind, Work.after_apply]
  simp only
  rw [Work.after_tryCatch, Work.after_log]
  simp only [Books.offer, Books.tell]
  cases (b.count .factoryFailures 1).sink (b.count .factoryFailures 1).journal
    (.creationFailed needed error) <;> rfl

/-- A failed call is counted before the sink is told of it. -/
theorem offer_account {supply : Supply} {error : String} {event : Event}
    {answer : Option Refusal × Books} (failed : supply.error? = some error)
    (offered : (b.count .factoryFailures 1).offer event = answer) (call : Resource)
    (calls : List (Resource × Supply)) :
    answer.2.account counter calls = b.account counter ((call, supply) :: calls) := by
  have heard : Counts [] [] (b.count .factoryFailures 1)
      ((b.count .factoryFailures 1).offer event).2 := .tell _ _
  rw [← offered, heard.account_eq List.not_mem_nil, ← Supply.countedAs_of_error failed,
    Books.account_count]

theorem Batch.join_tally {batch : Batch} {call : Resource} {supply : Supply}
    (ended : (call, supply) ∈ batch.ended) :
    tally counter ((call, supply) :: (batch.join call supply).unsettled) =
      tally counter batch.unsettled :=
  (List.perm_middle.symm.trans (.append_left _ (List.perm_cons_erase ended).symm)).countP_eq _

/-- A call that the keeper takes note of is counted, or kept until the batch is admitted. -/
theorem note_heard (counter : Counter) {batch : Batch} {supply : Supply}
    (heard : refusal? batch.needed supply b = none) (call : Resource) :
    ∃ noted left, (note batch call supply).after b = (.ok noted, left) ∧
      left.account counter noted.unsettled =
        b.account counter ((call, supply) :: batch.unsettled) := by
  unfold note
  cases failed : supply.error? with
  | none =>
      cases supply with
      | made =>
          refine ⟨_, _, rfl, b.account_congr ?_⟩
          simp only [Batch.unsettled, settled, List.map_append, List.append_assoc]
          exact List.perm_middle.countP_eq _
      | failed | panicked => contradiction
  | some error =>
      simp only [refusal?, failed, Option.bind_some] at heard
      have answered := logFailure_after batch.needed error (batch.made ++ madeIn batch.ended) b
      rcases offered : (b.count .factoryFailures 1).offer (.creationFailed batch.needed error) with
        ⟨refusal, told⟩
      rw [offered] at answered heard
      cases heard
      refine ⟨batch, told, by simp only [Work.after_bind, answered, Work.after_pure], ?_⟩
      exact offer_account failed offered call batch.unsettled

/-- A failed call of which the sink refuses to hear is counted before the keeper is cut short. -/
theorem note_refused (counter : Counter) {batch : Batch} {supply : Supply} {refusal : Refusal}
    (refused : refusal? batch.needed supply b = some refusal) (call : Resource) :
    ∃ left, (note batch call supply).after b = (.error (.logging refusal), left) ∧
      left.account counter batch.unsettled =
        b.account counter ((call, supply) :: batch.unsettled) := by
  obtain ⟨error, failed, unheard⟩ := Option.bind_eq_some_iff.mp refused
  have answered := logFailure_after batch.needed error (batch.made ++ madeIn batch.ended) b
  rcases offered : (b.count .factoryFailures 1).offer (.creationFailed batch.needed error) with
    ⟨answer, told⟩
  rw [offered] at answered unheard
  cases unheard
  have letGo : Counts [] [] told (told.letGoAll (batch.made ++ madeIn batch.ended)) := .letGoAll _ _
  refine ⟨_, by simp only [note, failed, Work.after_bind, answered]; rfl, ?_⟩
  exact (letGo.account_eq List.not_mem_nil _).trans (offer_account failed offered call _)

/-! ## The end of a turn -/

theorem admitBatch_account (counter : Counter) (generation : Nat) (made : List Resource)
    (b : Books) : ((admitBatch generation made).after b).2.account counter [] =
      b.account counter (settled made) := by
  have counted : (b.count .created made.length).account counter [] =
      b.account counter (settled made) := by
    rw [Books.account, Books.account, Books.get_count (by simp), tally_settled]
    split
    · exact UInt64.add_zero _
    · rfl
  unfold admitBatch
  split
  · rename_i none
    rw [List.isEmpty_iff.mp none]
    rfl
  · rw [Work.after_bind, Work.after_apply, ← counted]
    exact (admitted_counts generation made).account_eq List.not_mem_nil _ []

theorem deliver_tally (batch : Batch) (call : Resource) (supply : Supply) (b : Books) :
    tally counter (batch.deliver call supply b).1.unsettled =
      tally counter (batch.unsettled ++ [(call, supply)]) := by
  simp only [Batch.deliver, Batch.unsettled, tally_append]
  omega

/-- What is left of a batch after a turn. -/
def remains : Except Failure (Option Batch) → List (Resource × Supply)
  | .ok (some batch) => batch.unsettled
  | _ => []

/-- A turn of the keeper counts ended calls, leaves them in the batch, or loses them. -/
theorem collect_account (counter : Counter) {batch : Batch} {call : Resource} {supply : Supply}
    (ended : (call, supply) ∈ batch.ended) (b : Books) :
    ((collect batch call supply).after b).2.account counter
      (remains ((collect batch call supply).after b).1 ++ batch.lost call supply b) =
        b.account counter batch.unsettled := by
  have whole : b.account counter ((call, supply) :: (batch.join call supply).unsettled) =
      b.account counter batch.unsettled := b.account_congr (Batch.join_tally ended)
  have needed : (batch.join call supply).needed = batch.needed := rfl
  unfold collect Batch.lost
  rw [Work.after_bind, ← needed]
  cases answer : refusal? (batch.join call supply).needed supply b with
  | some refusal =>
      obtain ⟨left, cut, account⟩ := note_refused counter answer call
      rw [cut]
      exact account.trans whole
  | none =>
      obtain ⟨noted, left, kept, account⟩ := note_heard counter answer call
      rw [kept]
      refine Eq.trans ?_ (account.trans whole)
      simp only [Option.isSome_none, Bool.false_eq_true, if_false, List.append_nil]
      split
      · rename_i complete
        obtain ⟨_, _, empty⟩ := Batch.isComplete_iff.mp complete
        rw [Batch.unsettled, empty, List.append_nil,
          ← admitBatch_account counter noted.generation, Work.after_bind]
        rcases (admitBatch noted.generation noted.made).after left with ⟨_ | _, b'⟩ <;> rfl
      · rfl

end Keeper

/-! ## Turns -/

namespace Stage

/-- Ended calls that a job has not counted so far. -/
def unsettled : Stage → List (Resource × Supply)
  | .creating batch => batch.unsettled
  | _ => []

/-- Ended calls that a job loses in answer to a signal. -/
def lost (b : Books) : Stage → Signal → List (Resource × Supply)
  | .creating batch, .collect call supply => batch.lost call supply b
  | _, _ => []

end Stage

namespace Job

/-- What a job is left with after some work. -/
def remains : Except Failure Stage → List (Resource × Supply)
  | .ok stage => stage.unsettled
  | .error _ => []

theorem turn_remains (j : Job) (id : JobId) (work : Work Stage) (b : Books) :
    (j.turn id work b).1.stage.unsettled =
      remains (work.after { b with actor := some id }).1 := by
  unfold turn
  rcases ended : work.after { b with actor := some id } with ⟨failure | stage, left⟩ <;>
    simp only [Work.after] at ended <;> simp only [ended] <;> rfl

/-- A job that is not creating is left with no call to be counted. -/
theorem Proceeds.settles {j : Job} {before left : Books} {stage : Stage}
    (proceeds : j.Proceeds before left stage) (idle : ∀ batch, j.stage ≠ .creating batch) :
    stage.unsettled = [] := by
  cases stage with
  | creating batch =>
      rcases proceeds with ⟨none, _⟩ | ⟨previous, creating, _⟩
      · simp only [Keeper.Batch.resources, List.append_eq_nil_iff, List.map_eq_nil_iff] at none
        obtain ⟨⟨_, ended⟩, made⟩ := none
        simp only [Stage.unsettled, Keeper.Batch.unsettled, ended, made]
        rfl
      · exact False.elim (idle previous creating)
  | _ => rfl

theorem collect_account (counter : Counter) (j : Job) {batch : Keeper.Batch} {call : Resource}
    {supply : Supply} (ended : (call, supply) ∈ batch.ended) (b : Books) :
    ((j.collect batch call supply).after b).2.account counter
      (remains ((j.collect batch call supply).after b).1 ++ batch.lost call supply b) =
        b.account counter batch.unsettled := by
  have collected := Keeper.collect_account counter ended b
  unfold collect
  rw [Work.after_bind]
  rcases ended : (Keeper.collect batch call supply).after b with ⟨failure | _ | next, b'⟩ <;>
    rw [ended] at collected
  · exact collected
  · have paused : Work.Goes (fun _ => False) (pause j.kind j.enabled) b' _ :=
      pause_goes ⟨j.kind, j.enabled, .spawned⟩ b' b' j.kind j.enabled
    have settles : remains ((pause j.kind j.enabled).after b').1 = [] := by
      cases ended : ((pause j.kind j.enabled).after b').1 with
      | error failure => rfl
      | ok stage => exact (paused.answers stage ended).settles (by simp)
    simp only [settles]
    exact ((pause_counts j.kind j.enabled).account_eq List.not_mem_nil b' _).trans collected
  · exact collected

/-- A turn counts ended calls, leaves them to the job, or loses them. -/
theorem turn_account {j : Job} {signal : Signal} {work : Work Stage}
    (kind : counter = .created ∨ counter = .factoryFailures)
    (answered : j.respond b signal = some work) (id : JobId) :
    (j.turn id work b).2.account counter ((j.turn id work b).1.stage.unsettled ++
      j.stage.lost { b with actor := some id } signal) =
        b.account counter (j.stage.unsettled ++ signal.ended) := by
  have counts := turn_counts answered id
  have idle (standing : ∀ batch, j.stage ≠ .creating batch) (spared : counter ∉ signal.counters)
      (none : signal.ended = []) :
      (j.turn id work b).2.account counter ((j.turn id work b).1.stage.unsettled ++
        j.stage.lost { b with actor := some id } signal) =
          b.account counter (j.stage.unsettled ++ signal.ended) := by
    obtain ⟨_, _, proceeds⟩ := turn_spec answered id
    rw [proceeds.settles standing, none]
    cases stage : j.stage with
    | creating batch => exact False.elim (standing batch stage)
    | _ => exact counts.account_eq spared _
  cases responds answered with
  | launch standing =>
      rw [turn_remains, standing]
      exact counts.account_eq List.not_mem_nil _
  | @deliver batch call supply standing =>
      rw [turn_remains, standing]
      refine (counts.account_eq List.not_mem_nil _).trans (b.account_congr ?_)
      exact (congrArg (tally counter) (List.append_nil _)).trans
        (Keeper.deliver_tally batch call supply b)
  | collect standing ended =>
      rw [turn_remains, standing]
      have collected := collect_account counter j ended { b with actor := some id }
      refine ((j.after_counts id _ b).account_eq List.not_mem_nil _).trans ?_
      exact collected.trans (b.account_congr (by simp [Signal.ended, Stage.unsettled]))
  | run standing | wake standing | resolved _ standing | tick _ _ standing =>
      exact idle (by simp [standing]) (Counter.not_mem_of_calls kind (by simp [Signal.counters])
        (by simp [Signal.counters])) rfl
  | judge verdict standing =>
      refine idle (by simp [standing]) (Counter.not_mem_of_calls kind ?_ ?_) rfl <;>
        cases verdict <;> simp [Signal.counters, Verdict.condemns]

end Job
end ResourcePool
