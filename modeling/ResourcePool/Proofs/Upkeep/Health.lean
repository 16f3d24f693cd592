import ResourcePool.Proofs.Upkeep.Work

/-! The health job's stretches. A round waits for the check of a slot that was available when
the check began, and only this slot may be taken off the books for its answer. -/
namespace ResourcePool

/-- Answers that find a resource broken. -/
def Verdict.condemns : Verdict → Bool
  | .broken | .failed _ => true
  | .sound | .panicked _ => false

namespace Health
open Books (Deed Changes)
open Work (Goes)
variable {allowed : Deed → Prop}

theorem seek_goes (checked locked : Nat) (slots : List SlotId) (b : Books) :
    Goes allowed (seek checked locked slots) b fun answer left =>
      ∀ round ∈ answer, left.store.lockAvailable round.slot = some round.resource := by
  induction slots generalizing locked b with
  | nil =>
      exact (Goes.log _).bind fun _ _ _ => (Goes.log _).bind fun _ _ _ =>
        (Goes.log _).bind fun _ _ _ => Goes.pure (by simp)
  | cons slot rest ih =>
      refine Goes.books.bind ?_
      rintro _ b' ⟨rfl, rfl⟩
      split
      · exact (Goes.log _).bind fun _ _ _ => ih _ _
      · rename_i resource found
        refine (Goes.log _).bind ?_
        rintro _ _ rfl
        refine (Goes.log _).bind ?_
        rintro _ _ rfl
        refine (Goes.apply (.take _ _)).bind ?_
        rintro _ _ rfl
        refine Goes.pure ?_
        rintro round ⟨rfl⟩
        exact found

theorem survey_goes (b : Books) : Goes allowed survey b fun answer left =>
    ∀ round ∈ answer, left.store.lockAvailable round.slot = some round.resource :=
  (Goes.log _).bind fun _ _ _ => Goes.books.bind fun _ _ _ =>
    (Goes.log _).bind fun _ b' _ => seek_goes _ _ _ b'

/-- What is left to do once the slot is off the books. -/
theorem evicted_goes (refusal : Option Refusal) (was : Bool) (b : Books) :
    Goes allowed (do
      if was then Work.apply (·.count .evicted 1)
      match refusal with
      | some refusal => throw (.logging refusal)
      | none => pure ()) b fun _ _ => True := by
  have finished : ∀ b', Goes allowed (match refusal with
      | some refusal => throw (.logging refusal)
      | none => pure () : Work Unit) b' fun _ _ => True := by
    intro b'
    cases refusal with
    | none => exact Goes.pure trivial
    | some refusal => exact Goes.throw _
  cases was with
  | true => exact (Goes.apply (.count _ _ _)).bind fun _ _ _ => finished _
  | false => exact finished _

theorem evict_goes (slot : SlotId) (b : Books) (removal : allowed (.operate (.remove slot))) :
    Goes allowed (evict slot) b fun _ _ => True :=
  (Goes.modifyGet (.tell _ _)).bind fun refusal b' _ =>
    (Goes.modifyGet (.remove b' slot removal)).bind fun was _ _ => evicted_goes refusal was _

theorem conclude_goes (slot : SlotId) (verdict : Verdict) (b : Books)
    (removal : verdict.condemns = true → allowed (.operate (.remove slot))) :
    Goes allowed (conclude slot verdict) b fun _ _ => True := by
  cases verdict with
  | sound => exact (Goes.log _).weaken fun _ _ _ => trivial
  | broken => exact evict_goes slot b (removal rfl)
  | failed text => exact (Goes.log _).bind fun _ b' _ => evict_goes slot b' (removal rfl)
  | panicked text => exact Goes.pure trivial

theorem judge_goes (round : Round) (verdict : Verdict) (b : Books)
    (removal : verdict.condemns = true → allowed (.operate (.remove round.slot))) :
    Goes allowed (judge round verdict) b fun answer left =>
      ∀ next ∈ answer, left.store.lockAvailable next.slot = some next.resource :=
  (Goes.apply (.letGo _ _)).bind fun _ _ _ =>
    (conclude_goes round.slot verdict _ removal).bind fun _ b' _ => seek_goes _ _ _ b'

/-! ## Condemned slots -/

section
variable {slot : SlotId} {verdict : Verdict} {b : Books}

/-- An eviction takes the slot off the books whatever the sink says. -/
theorem evict_lacks (sound : b.store.Sound) (opened : slot.number < b.store.nextId) :
    ((evict slot).after b).2.Lacks slot := by
  have removed : (Books.remove (b.tell (.evicting slot)) slot).2.Lacks slot :=
    Books.remove_lacks sound opened
  unfold evict
  rw [Work.after_bind, Work.after_modifyGet]
  refine Work.bind_keeps (P := (Books.Lacks · slot)) removed fun was b' lacks => ?_
  have goes : Goes (fun _ => True) _ b' fun _ _ => True :=
    evicted_goes (b.offer (.evicting slot)).1 was b'
  exact goes.changes.lacks lacks

theorem conclude_lacks (sound : b.store.Sound) (opened : slot.number < b.store.nextId)
    (condemned : verdict.condemns = true)
    (heard : ∀ text, verdict = .failed text → b.sink b.journal (.checkFailed slot text) = none) :
    ((conclude slot verdict).after b).2.Lacks slot := by
  cases verdict with
  | broken => exact evict_lacks sound opened
  | failed text =>
      unfold conclude
      rw [Work.after_bind, Work.after_log, heard text rfl]
      exact evict_lacks sound opened
  | sound | panicked => contradiction

/-- A refused report of a failed check ends the cycle before the eviction. -/
theorem conclude_refused {text : String} {refusal : Refusal}
    (refused : b.sink b.journal (.checkFailed slot text) = some refusal) :
    (conclude slot (.failed text)).after b =
      (.error (.logging refusal), b.tell (.checkFailed slot text)) := by
  unfold conclude
  rw [Work.after_bind, Work.after_log, refused]

theorem judge_lacks {round : Round} (sound : b.store.Sound)
    (opened : round.slot.number < b.store.nextId) (condemned : verdict.condemns = true)
    (heard : ∀ text, verdict = .failed text →
      b.sink b.journal (.checkFailed round.slot text) = none) :
    ((judge round verdict).after b).2.Lacks round.slot := by
  have concluded : ((conclude round.slot verdict).after (b.letGo round.resource)).2.Lacks
      round.slot := conclude_lacks sound opened condemned heard
  unfold judge
  rw [Work.after_bind, Work.after_apply]
  refine Work.bind_keeps (P := (Books.Lacks · round.slot)) concluded fun _ b' lacks => ?_
  have goes : Goes (fun _ => True) (seek round.checked round.locked round.rest) b' _ :=
    seek_goes round.checked round.locked round.rest b'
  exact goes.changes.lacks lacks

theorem judge_refused {round : Round} {text : String} {refusal : Refusal}
    (refused : b.sink b.journal (.checkFailed round.slot text) = some refusal) :
    (judge round (.failed text)).after b =
      (.error (.logging refusal),
        (b.letGo round.resource).tell (.checkFailed round.slot text)) := by
  have concluded := conclude_refused (b := b.letGo round.resource) refused
  unfold judge
  rw [Work.after_bind, Work.after_apply]
  simp only
  rw [Work.after_bind, concluded]

end
end Health
end ResourcePool
