import ResourcePool.Proofs.Books.Changes
import ResourcePool.Upkeep.Signal

/-! Stretches of a job's work. Each is a function on the books that may be cut short; what
it does to them and what it answers follow from its parts. -/
namespace ResourcePool
open Books (Deed Changes)

namespace Work
variable {α β : Type}

/-- How a stretch ends, and the books it leaves. -/
def after (w : Work α) (b : Books) : Except Failure α × Books := (ExceptT.run w).run b

@[simp] theorem after_pure (a : α) (b : Books) : (pure a : Work α).after b = (.ok a, b) := rfl

@[simp] theorem after_throw (failure : Failure) (b : Books) :
    (throw failure : Work α).after b = (.error failure, b) := rfl

@[simp] theorem after_books (b : Books) : books.after b = (.ok b, b) := rfl

@[simp] theorem after_apply (change : Books → Books) (b : Books) :
    (apply change).after b = (.ok (), change b) := rfl

@[simp] theorem after_modifyGet (change : Books → α × Books) (b : Books) :
    (modifyGet change : Work α).after b = (.ok (change b).1, (change b).2) := rfl

theorem after_bind (w : Work α) (next : α → Work β) (b : Books) :
    (w >>= next).after b = match w.after b with
      | (.ok a, b') => (next a).after b'
      | (.error failure, b') => (.error failure, b') := by
  unfold after ExceptT.run StateT.run
  simp only [bind, ExceptT.bind, ExceptT.mk, ExceptT.bindCont, StateT.bind]
  rcases w b with ⟨_ | _, b'⟩ <;> rfl

theorem after_map (f : α → β) (w : Work α) (b : Books) :
    (f <$> w).after b = match w.after b with
      | (.ok a, b') => (.ok (f a), b')
      | (.error failure, b') => (.error failure, b') := by
  unfold after ExceptT.run StateT.run
  simp only [Functor.map, ExceptT.map, ExceptT.mk, bind, StateT.bind]
  rcases w b with ⟨_ | _, b'⟩ <;> rfl

theorem after_tryCatch (w : Work α) (handler : Failure → Work α) (b : Books) :
    (tryCatch w handler).after b = match w.after b with
      | (.ok a, b') => (.ok a, b')
      | (.error failure, b') => (handler failure).after b' := by
  unfold after ExceptT.run StateT.run
  simp only [tryCatch, tryCatchThe, MonadExceptOf.tryCatch, ExceptT.tryCatch, ExceptT.mk, bind,
    StateT.bind]
  rcases w b with ⟨_ | _, b'⟩ <;> rfl

theorem after_log (event : Event) (b : Books) :
    (log event).after b =
      (match b.sink b.journal event with
        | none => .ok ()
        | some refusal => .error (.logging refusal), b.tell event) := by
  unfold log
  rw [after_bind]
  cases heard : b.sink b.journal event <;>
    simp only [after_modifyGet, Books.offer, heard, Books.tell] <;> rfl

/-- Whether the first part is cut short or not, the books keep what the second part keeps. -/
theorem bind_keeps {P : Books → Prop} {w : Work α} {next : α → Work β} {b : Books}
    (first : P (w.after b).2) (rest : ∀ a b', P b' → P ((next a).after b').2) :
    P ((w >>= next).after b).2 := by
  rw [after_bind]
  rcases ended : w.after b with ⟨failure | a, b'⟩ <;> rw [ended] at first
  · exact first
  · exact rest a b' first

/-- From some books a stretch makes only changes for which its deeds are allowed, and an
answer that it comes to has a property together with the books it leaves. -/
structure Goes (allowed : Deed → Prop) (w : Work α) (b : Books) (post : α → Books → Prop) : Prop
    where
  changes : Changes allowed b (w.after b).2
  answers : ∀ a, (w.after b).1 = .ok a → post a (w.after b).2

namespace Goes
variable {allowed : Deed → Prop} {w : Work α} {b : Books} {post : α → Books → Prop}

theorem pure {a : α} (holds : post a b) : Goes allowed (Pure.pure a) b post :=
  ⟨.refl b, by rintro _ ⟨rfl⟩; exact holds⟩

theorem throw (failure : Failure) : Goes allowed (MonadExcept.throw failure : Work α) b post :=
  ⟨.refl b, by simp⟩

theorem weaken {property : α → Books → Prop} (goes : Goes allowed w b post)
    (weaker : ∀ a b', post a b' → property a b') : Goes allowed w b property :=
  ⟨goes.changes, fun a answer => weaker a _ (goes.answers a answer)⟩

theorem bind {next : α → Work β} {property : β → Books → Prop} (first : Goes allowed w b post)
    (rest : ∀ a b', post a b' → Goes allowed (next a) b' property) :
    Goes allowed (w >>= next) b property := by
  obtain ⟨changes, answers⟩ := first
  rcases ended : w.after b with ⟨failure | a, b'⟩ <;> rw [ended] at changes answers
  · constructor <;> rw [after_bind, ended]
    · exact changes
    · simp
  · obtain ⟨changes', answers'⟩ := rest a b' (answers a rfl)
    constructor <;> rw [after_bind, ended]
    · exact changes.trans changes'
    · exact answers'

theorem map {f : α → β} {property : β → Books → Prop}
    (goes : Goes allowed w b fun a left => property (f a) left) :
    Goes allowed (f <$> w) b property := by
  obtain ⟨changes, answers⟩ := goes
  rcases ended : w.after b with ⟨failure | a, b'⟩ <;> rw [ended] at changes answers
  · exact ⟨by rw [after_map, ended]; exact changes, by rw [after_map, ended]; simp⟩
  · constructor <;> rw [after_map, ended]
    · exact changes
    · rintro _ ⟨rfl⟩
      exact answers a rfl

theorem books : Goes allowed Work.books b fun seen left => seen = b ∧ left = b :=
  ⟨.refl b, by rintro _ ⟨rfl⟩; exact ⟨rfl, rfl⟩⟩

theorem apply {change : Books → Books} (changes : Changes allowed b (change b)) :
    Goes allowed (Work.apply change) b fun _ left => left = change b :=
  ⟨changes, fun _ _ => rfl⟩

theorem modifyGet {change : Books → α × Books} (changes : Changes allowed b (change b).2) :
    Goes allowed (MonadStateOf.modifyGet change : Work α) b
      fun a left => a = (change b).1 ∧ left = (change b).2 :=
  ⟨changes, by rintro _ ⟨rfl⟩; exact ⟨rfl, rfl⟩⟩

theorem log (event : Event) :
    Goes allowed (Work.log event) b fun _ left => left = b.tell event := by
  constructor <;> rw [after_log]
  · exact .tell b event
  · exact fun _ _ => rfl

theorem tryCatch {handler : Failure → Work α} (first : Goes allowed w b post)
    (rescue : ∀ failure b', Goes allowed (handler failure) b' post) :
    Goes allowed (MonadExcept.tryCatch w handler) b post := by
  obtain ⟨changes, answers⟩ := first
  rcases ended : w.after b with ⟨failure | a, b'⟩ <;> rw [ended] at changes answers
  · obtain ⟨changes', answers'⟩ := rescue failure b'
    constructor <;> rw [after_tryCatch, ended]
    · exact changes.trans changes'
    · exact answers'
  · constructor <;> rw [after_tryCatch, ended]
    · exact changes
    · exact answers

end Goes
end Work
end ResourcePool
