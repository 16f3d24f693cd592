/-! Finite tables that keep their rows in the order of insertion. A key has at
most one row: setting a key that has one overwrites it in place. -/
namespace ResourcePool

structure Table (κ α : Type) where
  rows : List (κ × α) := []
deriving Repr, DecidableEq

namespace Table
variable {κ α : Type}

instance : Inhabited (Table κ α) := ⟨{}⟩

def keys (t : Table κ α) : List κ := t.rows.map Prod.fst

def values (t : Table κ α) : List α := t.rows.map Prod.snd

def size (t : Table κ α) : Nat := t.rows.length

variable [DecidableEq κ]

def get? (t : Table κ α) (k : κ) : Option α :=
  (t.rows.find? (·.1 = k)).map Prod.snd

def setRow (k : κ) (a : α) : List (κ × α) → List (κ × α)
  | [] => [(k, a)]
  | row :: rest => if row.1 = k then (k, a) :: rest else row :: setRow k a rest

def set (t : Table κ α) (k : κ) (a : α) : Table κ α := ⟨setRow k a t.rows⟩

def erase (t : Table κ α) (k : κ) : Table κ α := ⟨t.rows.filter (·.1 ≠ k)⟩

@[simp] theorem get?_empty (k : κ) : (⟨[]⟩ : Table κ α).get? k = none := rfl

theorem get?_cons (row : κ × α) (rest : List (κ × α)) (k : κ) :
    (⟨row :: rest⟩ : Table κ α).get? k =
      if row.1 = k then some row.2 else (⟨rest⟩ : Table κ α).get? k := by
  by_cases same : row.1 = k <;> simp [get?, same]

theorem get?_set (t : Table κ α) (k k' : κ) (a : α) :
    (t.set k a).get? k' = if k = k' then some a else t.get? k' := by
  obtain ⟨rows⟩ := t
  induction rows with
  | nil => simp [set, setRow, get?_cons]
  | cons row rest ih =>
      by_cases same : row.1 = k
      · simp only [set, setRow, same, if_true, get?_cons]
        split <;> simp_all
      · simp only [set, setRow, same, if_false, get?_cons] at ih ⊢
        rw [ih]
        grind

theorem get?_erase (t : Table κ α) (k k' : κ) :
    (t.erase k).get? k' = if k = k' then none else t.get? k' := by
  obtain ⟨rows⟩ := t
  induction rows with
  | nil => simp [erase]
  | cons row rest ih =>
      simp only [erase] at ih ⊢
      by_cases same : row.1 = k
      · rw [List.filter_cons_of_neg (by simp [same]), ih, get?_cons]
        split <;> simp_all
      · rw [List.filter_cons_of_pos (by simp [same]), get?_cons, get?_cons, ih]
        grind

end Table
end ResourcePool
