import ResourcePool.Proofs.Upkeep.Work

/-! What a tick does to the books: apart from reports it may clear the population. -/
namespace ResourcePool
open Books (Deed Changes)

namespace Tick
variable {α β : Type} {allowed : Deed → Prop} {b : Books}

/-- How a stretch of a tick ends, and the books it leaves. -/
def after (tick : Tick α) (b : Books) : Except String α × Books := (ExceptT.run tick).run b

theorem after_bind (tick : Tick α) (next : α → Tick β) (b : Books) :
    (tick >>= next).after b = match tick.after b with
      | (.ok a, b') => (next a).after b'
      | (.error text, b') => (.error text, b') := by
  unfold after ExceptT.run StateT.run
  simp only [bind, ExceptT.bind, ExceptT.mk, ExceptT.bindCont, StateT.bind]
  rcases tick b with ⟨_ | _, b'⟩ <;> rfl

theorem changes_bind {tick : Tick α} {next : α → Tick β}
    (first : Changes allowed b (tick.after b).2)
    (rest : ∀ a b', Changes allowed b' ((next a).after b').2) :
    Changes allowed b ((tick >>= next).after b).2 := by
  rw [after_bind]
  rcases ended : tick.after b with ⟨text | a, b'⟩ <;> rw [ended] at first
  · exact first
  · exact first.trans (rest a b')

theorem changes_log (event : Event) (b : Books) :
    Changes allowed b ((Tick.log event).after b).2 := by
  unfold Tick.log
  refine changes_bind (.tell b event) fun refusal b' => ?_
  cases refusal <;> exact .refl b'

theorem after_log {event : Event} (heard : b.sink b.journal event = none) :
    (Tick.log event).after b = (.ok (), b.tell event) := by
  have offered : (modifyGet fun b => b.offer event : Tick _).after b = (.ok none, b.tell event) :=
    congrArg (fun refusal => (Except.ok refusal, b.tell event)) heard
  unfold Tick.log
  rw [after_bind, offered]
  rfl

end Tick

namespace Policy
variable {allowed : Deed → Prop}

theorem changes_act (clearing : allowed (.operate .clear)) (act : Act) (b : Books) :
    Changes allowed b ((Policy.act act).after b).2 := by
  cases act with
  | clear => exact .clear b clearing
  | log event => exact Tick.changes_log event b
  | tell event => exact .tell b event
  | readPopulation | readId => exact .note b fun _ => by simp

theorem changes_acts (clearing : allowed (.operate .clear)) (acts : List Act) (b : Books) :
    Changes allowed b ((Policy.acts acts).after b).2 := by
  induction acts generalizing b with
  | nil => exact .refl b
  | cons act rest ih => exact Tick.changes_bind (changes_act clearing act b) fun _ b' => ih b'

theorem changes_watch (clearing : allowed (.operate .clear)) (hostname : String)
    (resolution : Resolution) (b : Books) :
    Changes allowed b ((watch hostname resolution).after b).2 := by
  cases resolution with
  | error text => exact Tick.changes_log _ b
  | ok found =>
      refine Tick.changes_bind (.refl b) fun seen b' => ?_
      simp only
      split
      · refine Tick.changes_bind (Tick.changes_log _ b') fun _ b'' => ?_
        exact Tick.changes_bind (.clear b'' clearing) fun _ _ => .aside rfl rfl rfl
      · exact .refl b'

/-- Acts after others that pass go on from the books that those leave. -/
theorem acts_append {early : List Act} {b : Books}
    (passed : ((Policy.acts early).after b).1 = .ok ()) (late : List Act) :
    (Policy.acts (early ++ late)).after b =
      (Policy.acts late).after ((Policy.acts early).after b).2 := by
  induction early generalizing b with
  | nil => rfl
  | cons act early ih =>
      have begun (acts : List Act) := Tick.after_bind (Policy.act act) (fun _ => Policy.acts acts) b
      rcases ended : (Policy.act act).after b with ⟨text | _, b'⟩ <;>
        simp only [ended] at begun <;> simp only [Policy.acts, List.cons_append, begun] at passed ⊢
      · contradiction
      · exact ih passed

/-- Where acts come to a clearing, what follows it only adds to it. -/
theorem acts_clear (clearing : allowed (.operate .clear)) {early : List Act} {b : Books}
    (passed : ((Policy.acts early).after b).1 = .ok ()) (rest : List Act) :
    Changes allowed ((Policy.acts early).after b).2.clear
      ((Policy.acts (early ++ .clear :: rest)).after b).2 := by
  rw [acts_append passed]
  exact changes_acts clearing rest _

/-- A watch that finds other addresses, and can say so, clears the population. -/
theorem watch_clear {hostname : String} {found : List Address} {b : Books}
    (changed : b.baseline ≠ Address.canonical found)
    (heard : b.sink b.journal (.addressesChanged hostname b.baseline.length
      (Address.canonical found).length) = none) :
    Changes allowed (b.tell (.addressesChanged hostname b.baseline.length
      (Address.canonical found).length)).clear ((watch hostname (.ok found)).after b).2 := by
  have seen : (get : Tick Books).after b = (.ok b, b) := rfl
  simp only [watch, Tick.after_bind, seen, if_pos changed, Tick.after_log heard]
  exact .aside rfl rfl rfl

theorem changes_start (policy : Policy) (b : Books) : Changes allowed b (policy.start b) := by
  have noted : Changes allowed b (b.note .policyStarted) := .note b fun _ => by simp
  cases policy with
  | addresses hostname => exact noted.trans (.aside rfl rfl rfl)
  | custom label => exact noted

theorem changes_beginTick (policy : Policy) (b : Books) :
    Changes allowed b (policy.beginTick b) := by
  cases policy with
  | addresses hostname =>
      have built : Changes allowed b { b with resolvers := b.resolvers + 1 } := .aside rfl rfl rfl
      exact built.trans (.note _ fun _ => by simp)
  | custom label => exact .refl b

end Policy
end ResourcePool
