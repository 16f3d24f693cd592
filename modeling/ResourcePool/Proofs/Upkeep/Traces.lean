import ResourcePool.Proofs.Books.Postings
import ResourcePool.Proofs.Upkeep.Tick

/-! Stretches of work by the events that they report. A stretch is cut short only if one of its
events is refused. -/
namespace ResourcePool

variable {told early late : List Report}

/-- The events among some reports, in the order in which they were offered. -/
def eventsOf (told : List Report) : List Event := (told.filterMap Report.event?).reverse

theorem eventsOf_append (late early : List Report) :
    eventsOf (late ++ early) = eventsOf early ++ eventsOf late := by
  rw [eventsOf, List.filterMap_append, List.reverse_append, eventsOf, eventsOf]

theorem eventsOf_quiet (quiet : ∀ report ∈ told, report.event? = none) : eventsOf told = [] := by
  rw [eventsOf, List.filterMap_eq_nil_iff.mpr quiet, List.reverse_nil]

/-- Whether an event among some reports was refused. -/
def Unheard (told : List Report) : Prop := ∃ event, .event event true ∈ told

/-- Whether a report is of an event that was refused. -/
def Report.isRefused : Report → Bool
  | .event _ refused => refused
  | _ => false

theorem any_isRefused_iff (told : List Report) :
    told.any Report.isRefused = true ↔ Unheard told := by
  rw [List.any_eq_true]
  constructor
  · rintro ⟨report, member, refused⟩
    cases report with
    | event event refusal => exact ⟨event, refused ▸ member⟩
    | _ => contradiction
  · rintro ⟨event, member⟩
    exact ⟨_, member, rfl⟩

instance (told : List Report) : Decidable (Unheard told) :=
  decidable_of_iff _ (any_isRefused_iff told)

theorem Unheard.subset (unheard : Unheard early) (within : early ⊆ late) : Unheard late := by
  obtain ⟨event, refused⟩ := unheard
  exact ⟨event, within refused⟩

/-- The events that were reported in the name of a job. -/
def Books.trace (b : Books) (job : JobId) : List Event := eventsOf (b.reportsOf (some job))

theorem Books.Adds.letGoAll (b : Books) (resources : List Resource) :
    Books.Adds [] b (b.letGoAll resources) := by
  induction resources generalizing b with
  | nil => exact .refl b
  | cons resource rest ih =>
      have first : Books.Adds [] b (b.letGo resource) := .aside rfl rfl rfl rfl rfl rfl
      exact first.trans (ih (b.letGo resource))

theorem Books.Adds.dispose (b : Books) (store : Store Resource) (count : Nat)
    (resources : List Resource) :
    Books.Adds [] b ((({ b with store } : Books).count .disposed count).letGoAll resources) := by
  have counted : Books.Adds [] b (({ b with store } : Books).count .disposed count) :=
    .aside rfl rfl rfl rfl rfl rfl
  exact counted.trans (.letGoAll _ resources)

namespace Work
variable {α β : Type} {w : Work α} {b : Books} {post : α → List Event → Prop}

/-- An answer has a property together with the events that came before it; without an answer an
event was refused. -/
def Reaches (post : α → List Event → Prop) : Except Failure α → List Report → Prop
  | .ok a, told => post a (eventsOf told)
  | .error _, told => Unheard told

/-- From some books a stretch comes to an answer that has a property together with the events it
reports, unless one of them is refused. -/
def Traces (w : Work α) (b : Books) (post : α → List Event → Prop) : Prop :=
  Tells w b (Reaches post)

namespace Traces

theorem pure {a : α} (holds : post a []) : Traces (Pure.pure a) b post := Tells.pure holds

theorem weaken {property : α → List Event → Prop} (traces : Traces w b post)
    (weaker : ∀ a told, post a told → property a told) : Traces w b property := by
  refine Tells.weaken traces ?_
  rintro (failure | a) told reached
  · exact reached
  · exact weaker a _ reached

/-- What follows a stretch starts from books that it left steady. -/
theorem bind {next : α → Work β} {property : β → List Event → Prop} (first : Traces w b post)
    (rest : ∀ a early b', post a early → b.Steady b' →
      Traces (next a) b' fun answer late => property answer (early ++ late)) :
    Traces (w >>= next) b property := by
  obtain ⟨early, adds, reached⟩ := first
  unfold Traces Tells
  rw [after_bind]
  rcases ended : w.after b with ⟨failure | a, b'⟩ <;> rw [ended] at adds reached
  · exact ⟨early, adds, reached⟩
  · obtain ⟨late, adds', reached'⟩ := rest a (eventsOf early) b' reached adds.steady
    refine ⟨late ++ early, adds.trans adds', ?_⟩
    simp only
    rcases ended' : (next a).after b' with ⟨failure | answer, left⟩ <;> rw [ended'] at reached'
    · exact reached'.subset (List.subset_append_left late early)
    · show property answer (eventsOf (late ++ early))
      rw [eventsOf_append]
      exact reached'

/-- Work that looks at the books goes on with them as they are. -/
theorem books {next : Books → Work α} (traces : Traces (next b) b post) :
    Traces (Work.books >>= next) b post := traces

/-- A change that reports no event. -/
theorem apply {change : Books → Books} (adds : Books.Adds told b (change b))
    (quiet : ∀ report ∈ told, report.event? = none) :
    Traces (Work.apply change) b fun _ told => told = [] :=
  ⟨told, adds, eventsOf_quiet quiet⟩

theorem log (event : Event) : Traces (Work.log event) b fun _ told => told = [event] := by
  have told := Books.Adds.tell b event
  unfold Traces Tells
  rw [after_log]
  cases heard : b.sink b.journal event <;> rw [heard] at told
  · exact ⟨_, told, rfl⟩
  · exact ⟨_, told, event, List.mem_singleton_self _⟩

end Traces
end Work
end ResourcePool
