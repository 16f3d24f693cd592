import ResourcePool.Table
import Mathlib.Data.List.Nodup

/-! The keys of a table. Setting and erasing keep them distinct, so the size of a
table is the number of keys that have a row. -/
namespace ResourcePool.Table
variable {κ α : Type}

theorem size_eq_length_keys (t : Table κ α) : t.size = t.keys.length := by
  simp only [size, keys, List.length_map]

theorem size_eq_length_values (t : Table κ α) : t.size = t.values.length := by
  simp only [size, values, List.length_map]

/-- The table with another value under each key. -/
def map {β : Type} (f : α → β) (t : Table κ α) : Table κ β :=
  ⟨t.rows.map fun row => (row.1, f row.2)⟩

theorem values_map {β : Type} (f : α → β) (t : Table κ α) :
    (t.map f).values = t.values.map f := by
  simp [map, values]

theorem size_map {β : Type} (f : α → β) (t : Table κ α) : (t.map f).size = t.size := by
  simp [map, size]

theorem map_eq_self {f : α → α} {t : Table κ α} (fixed : ∀ a ∈ t.values, f a = a) :
    t.map f = t := by
  have rows : t.rows.map (fun row => (row.1, f row.2)) = t.rows := by
    refine (List.map_congr_left fun row member => ?_).trans (List.map_id _)
    rw [fixed row.2 (List.mem_map_of_mem member)]
    rfl
  simp only [map, rows]

variable [DecidableEq κ] {t : Table κ α} {k k' : κ} {a : α}

theorem eq_empty (absent : ∀ k, t.get? k = none) : t = {} := by
  obtain ⟨rows⟩ := t
  cases rows with
  | nil => rfl
  | cons row rest =>
      have found := absent row.1
      rw [get?_cons, if_pos rfl] at found
      contradiction

theorem get?_map {β : Type} (f : α → β) (t : Table κ α) (k : κ) :
    (t.map f).get? k = (t.get? k).map f := by
  obtain ⟨rows⟩ := t
  simp only [get?, map, List.find?_map, Option.map_map]
  rfl

theorem set_map {β : Type} (f : α → β) (t : Table κ α) (k : κ) (a : α) :
    (t.map f).set k (f a) = (t.set k a).map f := by
  obtain ⟨rows⟩ := t
  simp only [map, set, mk.injEq]
  induction rows with
  | nil => rfl
  | cons row rest ih =>
      simp only [List.map_cons, setRow]
      split
      · rfl
      · simp [ih]

theorem erase_map {β : Type} (f : α → β) (t : Table κ α) (k : κ) :
    (t.map f).erase k = (t.erase k).map f := by
  simp only [map, erase, List.filter_map]
  rfl

theorem get?_set_self (t : Table κ α) (k : κ) (a : α) : (t.set k a).get? k = some a :=
  (get?_set ..).trans (if_pos rfl)

theorem get?_set_of_ne (t : Table κ α) (a : α) (different : k ≠ k') :
    (t.set k a).get? k' = t.get? k' := (get?_set ..).trans (if_neg different)

theorem get?_erase_self (t : Table κ α) (k : κ) : (t.erase k).get? k = none :=
  (get?_erase ..).trans (if_pos rfl)

theorem get?_erase_of_ne (t : Table κ α) (different : k ≠ k') :
    (t.erase k).get? k' = t.get? k' := (get?_erase ..).trans (if_neg different)

theorem erase_set (t : Table κ α) (k : κ) (a : α) : (t.set k a).erase k = t.erase k := by
  obtain ⟨rows⟩ := t
  simp only [set, erase, mk.injEq]
  induction rows with
  | nil => simp [setRow]
  | cons row rest ih =>
      simp only [setRow]
      by_cases same : row.1 = k
      · simp [same]
      · rw [if_neg same, List.filter_cons_of_pos (by simp [same]),
          List.filter_cons_of_pos (by simp [same]), ih]

theorem set_set (t : Table κ α) (k : κ) (a b : α) : (t.set k a).set k b = t.set k b := by
  obtain ⟨rows⟩ := t
  simp only [set, mk.injEq]
  induction rows with
  | nil => simp [setRow]
  | cons row rest ih =>
      simp only [setRow]
      by_cases same : row.1 = k
      · simp [same, setRow]
      · simp [same, setRow, ih]

theorem set_eq_self (found : t.get? k = some a) : t.set k a = t := by
  obtain ⟨rows⟩ := t
  simp only [set, mk.injEq]
  induction rows with
  | nil => contradiction
  | cons row rest ih =>
      rw [get?_cons] at found
      simp only [setRow]
      by_cases same : row.1 = k
      · rw [if_pos same] at found ⊢
        rw [← same, ← Option.some.inj found]
      · rw [if_neg same] at found ⊢
        rw [ih found]

theorem mem_keys_iff (t : Table κ α) (k : κ) : k ∈ t.keys ↔ ∃ a, t.get? k = some a := by
  obtain ⟨rows⟩ := t
  induction rows with
  | nil => simp [keys]
  | cons row rest ih =>
      simp only [keys] at ih
      simp only [keys, List.map_cons, List.mem_cons, get?_cons, ih]
      by_cases same : row.1 = k
      · simp [same]
      · simp [same, Ne.symm same]

theorem mem_values_of_get? (found : t.get? k = some a) : a ∈ t.values := by
  obtain ⟨row, member, rfl⟩ := Option.map_eq_some_iff.mp found
  exact List.mem_map_of_mem (List.mem_of_find?_eq_some member)

theorem get?_of_mem_values (distinct : t.keys.Nodup) (member : a ∈ t.values) :
    ∃ k, t.get? k = some a := by
  obtain ⟨rows⟩ := t
  induction rows with
  | nil => contradiction
  | cons row rest ih =>
      obtain ⟨absent, distinct⟩ := List.nodup_cons.mp distinct
      obtain rfl | later := List.mem_cons.mp member
      · exact ⟨row.1, by rw [get?_cons, if_pos rfl]⟩
      · obtain ⟨k, found⟩ := ih distinct later
        have different : row.1 ≠ k := fun same =>
          absent (same ▸ (mem_keys_iff ⟨rest⟩ k).mpr ⟨a, found⟩)
        exact ⟨k, by rw [get?_cons, if_neg different, found]⟩

theorem keys_setRow (k : κ) (a : α) (rows : List (κ × α)) :
    (setRow k a rows).map Prod.fst =
      if k ∈ rows.map Prod.fst then rows.map Prod.fst else rows.map Prod.fst ++ [k] := by
  induction rows with
  | nil => rfl
  | cons row rest ih =>
      simp only [setRow]
      by_cases same : row.1 = k
      · simp [same]
      · simp only [same, if_false, List.map_cons, ih, List.mem_cons, Ne.symm same, false_or]
        split <;> simp

theorem nodup_keys_set (distinct : t.keys.Nodup) (k : κ) (a : α) : (t.set k a).keys.Nodup := by
  simp only [keys, set] at distinct ⊢
  rw [keys_setRow]
  split
  · exact distinct
  · rename_i absent
    rw [List.nodup_append_comm]
    exact List.nodup_cons.mpr ⟨absent, distinct⟩

/-- Up to their order, what a table has after a setting: the new row and those of other keys. -/
theorem rows_set_perm (distinct : t.keys.Nodup) (k : κ) (a : α) :
    (t.set k a).rows.Perm ((k, a) :: t.rows.filter (·.1 ≠ k)) := by
  obtain ⟨rows⟩ := t
  induction rows with
  | nil => exact .refl _
  | cons row rest ih =>
      obtain ⟨absent, distinct⟩ := List.nodup_cons.mp distinct
      by_cases same : row.1 = k
      · have others : rest.filter (·.1 ≠ k) = rest := List.filter_eq_self.mpr fun other member => by
          rw [decide_eq_true_eq]
          rintro rfl
          exact absent (same ▸ List.mem_map_of_mem member)
        rw [List.filter_cons_of_neg (by simp [same]), others]
        simp only [set, setRow, same, if_true]
        exact .refl _
      · rw [List.filter_cons_of_pos (by simp [same])]
        simp only [set, setRow, same, if_false]
        exact ((ih distinct).cons row).trans (.swap _ _ _)

/-- The same of several settings, of a key each. -/
theorem rows_foldl_set_perm {entries : List (κ × α)} (once : (entries.map Prod.fst).Nodup)
    (distinct : t.keys.Nodup) :
    (entries.foldl (fun t (k, a) => t.set k a) t).rows.Perm
      (entries ++ t.rows.filter (·.1 ∉ entries.map Prod.fst)) := by
  induction entries generalizing t with
  | nil => simp
  | cons entry rest ih =>
      obtain ⟨k, a⟩ := entry
      obtain ⟨fresh, once⟩ := List.nodup_cons.mp once
      have first : ((t.set k a).rows.filter (·.1 ∉ rest.map Prod.fst)).Perm
          ((k, a) :: t.rows.filter (·.1 ∉ ((k, a) :: rest).map Prod.fst)) := by
        refine ((rows_set_perm distinct k a).filter _).trans (.of_eq ?_)
        rw [List.filter_cons_of_pos (by simpa using fresh), List.filter_filter]
        refine congrArg _ (List.filter_congr fun row _ => ?_)
        rw [Bool.eq_iff_iff]
        simp [not_or, and_comm]
      exact (ih once (nodup_keys_set distinct k a)).trans
        ((first.append_left rest).trans List.perm_middle)

/-- Setting a key that has a row puts a value in the place of another. -/
theorem values_set {old : α} (found : t.get? k = some old) (a : α) :
    ∃ before after, t.values = before ++ old :: after ∧
      (t.set k a).values = before ++ a :: after := by
  obtain ⟨rows⟩ := t
  induction rows with
  | nil => contradiction
  | cons row rest ih =>
      rw [get?_cons] at found
      simp only [set, setRow]
      by_cases same : row.1 = k
      · rw [if_pos same] at found
        cases found
        rw [if_pos same]
        exact ⟨[], rest.map Prod.snd, rfl, rfl⟩
      · rw [if_neg same] at found ⊢
        obtain ⟨before, after, earlier, later⟩ := ih found
        simp only [values, set] at earlier later
        exact ⟨row.2 :: before, after, by simp [values, earlier], by simp [values, later]⟩

theorem values_set_of_absent (absent : t.get? k = none) (a : α) :
    (t.set k a).values = t.values ++ [a] := by
  obtain ⟨rows⟩ := t
  induction rows with
  | nil => rfl
  | cons row rest ih =>
      rw [get?_cons] at absent
      simp only [set, setRow]
      by_cases same : row.1 = k
      · rw [if_pos same] at absent
        contradiction
      · rw [if_neg same] at absent ⊢
        have later := ih absent
        simp only [values, set] at later
        simp [values, later]

theorem size_set_of_absent (absent : t.get? k = none) (a : α) :
    (t.set k a).size = t.size + 1 := by
  rw [size_eq_length_values, values_set_of_absent absent, size_eq_length_values,
    List.length_append, List.length_singleton]

theorem size_erase (distinct : t.keys.Nodup) (found : t.get? k = some a) :
    (t.erase k).size + 1 = t.size := by
  have member : k ∈ t.keys := (mem_keys_iff t k).mpr ⟨a, found⟩
  have erased : (t.erase k).keys = t.keys.erase k := by
    rw [distinct.erase_eq_filter, keys, keys, List.filter_map]
    exact congrArg _ (List.filter_congr fun row _ => by
      rw [Bool.eq_iff_iff]
      simp)
  rw [size_eq_length_keys, size_eq_length_keys, erased, List.length_erase_of_mem member]
  exact Nat.succ_pred_eq_of_pos (List.length_pos_of_mem member)

theorem nodup_keys_erase (distinct : t.keys.Nodup) (k : κ) : (t.erase k).keys.Nodup :=
  (List.filter_sublist.map Prod.fst).nodup distinct

/-- Erases several keys one after another. -/
def eraseAll (t : Table κ α) (ks : List κ) : Table κ α := ks.foldl erase t

theorem get?_eraseAll (t : Table κ α) (ks : List κ) (k : κ) :
    (t.eraseAll ks).get? k = if k ∈ ks then none else t.get? k := by
  induction ks generalizing t with
  | nil => simp [eraseAll]
  | cons key rest ih =>
      have step : t.eraseAll (key :: rest) = (t.erase key).eraseAll rest := rfl
      rw [step, ih, get?_erase]
      by_cases same : key = k
      · simp [same]
      · simp [same, Ne.symm same]

theorem nodup_keys_eraseAll (distinct : t.keys.Nodup) (ks : List κ) :
    (t.eraseAll ks).keys.Nodup := by
  induction ks generalizing t with
  | nil => exact distinct
  | cons key rest ih => exact ih (nodup_keys_erase distinct key)

end ResourcePool.Table
