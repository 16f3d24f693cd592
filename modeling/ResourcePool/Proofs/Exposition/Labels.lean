import Mathlib.Data.List.Perm.Basic
import ResourcePool.Proofs.Exposition.Reader
import ResourcePool.Proofs.Table

/-! Labels read back as they were written, whatever their values, and the labels that every
sample carries. -/
namespace ResourcePool.Exposition
namespace Reader

theorem isBlank_eq_false {c : Char} (space : c ≠ ' ') (tab : c ≠ '\t') : isBlank c = false := by
  simp [isBlank, space, tab]

theorem isBlank_of_isLabelStart {c : Char} (start : isLabelStart c = true) : isBlank c = false := by
  refine isBlank_eq_false ?_ ?_ <;> rintro rfl <;> contradiction

theorem isBlank_of_isMetricStart {c : Char} (start : isMetricStart c = true) :
    isBlank c = false := by
  refine isBlank_eq_false ?_ ?_ <;> rintro rfl <;> contradiction

theorem skip_cons {c : Char} (solid : isBlank c = false) (rest : List Char) :
    skip (c :: rest) = c :: rest :=
  List.dropWhile_cons_of_neg (by simp [solid])

theorem expect?_cons {c : Char} (solid : isBlank c = false) (d : Char) (rest : List Char) :
    expect? d (c :: rest) = if c = d then some rest else none := by
  simp only [expect?, skip_cons solid]

section Word
variable {start part : Char → Bool} {c : Char} {cs : List Char}

theorem isWord_cases (proper : isWord start part cs = true) :
    ∃ first others, cs = first :: others ∧ start first = true ∧ ∀ c ∈ others, part c = true := by
  cases cs with
  | nil => contradiction
  | cons first others =>
      rw [isWord, Bool.and_eq_true, List.all_eq_true] at proper
      exact ⟨first, others, rfl, proper⟩

theorem notMem_of_isWord (proper : isWord start part cs = true) (starts : start c = false)
    (parts : part c = false) : c ∉ cs := by
  obtain ⟨first, others, rfl, begun, continued⟩ := isWord_cases proper
  intro member
  obtain rfl | later := List.mem_cons.mp member
  · exact Bool.false_ne_true (starts.symm.trans begun)
  · exact Bool.false_ne_true (parts.symm.trans (continued c later))

/-- A word is read to its end where nothing follows that could belong to it. -/
theorem word?_append {name : String} (proper : isWord start part name.toList = true)
    (solid : ∀ c, start c = true → isBlank c = false) (rest : List Char)
    (ended : ∀ c ∈ rest.head?, part c = false) :
    word? start part (name.toList ++ rest) = some (name, rest) := by
  obtain ⟨first, others, spelled, begun, continued⟩ := isWord_cases proper
  have stops : rest.takeWhile part = [] ∧ rest.dropWhile part = rest := by
    cases rest with
    | nil => exact ⟨rfl, rfl⟩
    | cons c cs => simp [ended c rfl]
  simp only [word?, spelled, List.cons_append, skip_cons (solid first begun), begun, if_true]
  rw [List.takeWhile_append_of_pos continued, List.dropWhile_append_of_pos continued, stops.1,
    stops.2, List.append_nil, ← spelled, String.ofList_toList]

end Word

/-- Reading a character as it is escaped. -/
theorem quoted?_escapeChar (c : Char) (rest : List Char) :
    quoted? (escapeChar c ++ rest) = (quoted? rest).map fun (text, rest) => (c :: text, rest) := by
  unfold escapeChar
  split
  case h_4 => rw [List.singleton_append, quoted?] <;> grind
  all_goals rfl

theorem quoted?_escape (text rest : List Char) :
    quoted? (text.flatMap escapeChar ++ '"' :: rest) = some (text, rest) := by
  induction text with
  | nil => rfl
  | cons c cs ih =>
      rw [List.flatMap_cons, List.append_assoc, quoted?_escapeChar, ih]
      rfl

end Reader

theorem toList_labelText (label : String × String) :
    (labelText label).toList =
      label.1.toList ++ '=' :: '"' :: (label.2.toList.flatMap escapeChar ++ ['"']) := by
  simp [labelText, escape]

/-- The text of the labels that are written between the braces. -/
def listText (written : List (String × String)) : String := ",".intercalate (written.map labelText)

theorem listText_singleton (label : String × String) : listText [label] = labelText label :=
  String.intercalate_singleton

theorem toList_listText_cons (label next : String × String) (others : List (String × String)) :
    (listText (label :: next :: others)).toList =
      (labelText label).toList ++ ',' :: (listText (next :: others)).toList := by
  simp only [listText, List.map_cons, String.intercalate_cons_cons, String.toList_append,
    List.append_assoc]
  rfl

namespace Reader

variable {label : String × String} {written : List (String × String)}

theorem label?_labelText (named : isLabelName label.1 = true) (rest : List Char) :
    label? ((labelText label).toList ++ rest) = some (label, rest) := by
  have name := word?_append named (fun c => isBlank_of_isLabelStart)
    ('=' :: '"' :: (label.2.toList.flatMap escapeChar ++ '"' :: rest))
    (fun c first => by cases first; rfl)
  simp only [toList_labelText, List.append_assoc, List.cons_append, List.nil_append, label?, name,
    Option.bind_eq_bind, Option.bind_some, expect?_cons (c := '=') rfl,
    expect?_cons (c := '"') rfl, if_true, quoted?_escape, String.ofList_toList, pure]

/-- A label does not start as the closing brace does. -/
theorem expect?_labelText (named : isLabelName label.1 = true) (rest : List Char) :
    expect? '\x7d' ((labelText label).toList ++ rest) = none := by
  obtain ⟨first, others, spelled, begun, _⟩ := isWord_cases named
  have different : first ≠ '\x7d' := by
    rintro rfl
    contradiction
  rw [toList_labelText, spelled, List.append_assoc, List.cons_append,
    expect?_cons (isBlank_of_isLabelStart begun), if_neg different]

theorem labels?_last (named : isLabelName label.1 = true) (rest : List Char) :
    labels? ((labelText label).toList ++ '\x7d' :: rest) = some ([label], rest) := by
  rw [labels?, expect?_labelText named, label?_labelText named]
  rfl

theorem labels?_comma (named : isLabelName label.1 = true) (rest : List Char) :
    labels? ((labelText label).toList ++ ',' :: rest) =
      (labels? rest).map fun (labels, rest) => (label :: labels, rest) := by
  rw [labels?, expect?_labelText named, label?_labelText named]
  rfl

theorem labels?_listText (named : ∀ label ∈ written, isLabelName label.1 = true)
    (rest : List Char) :
    labels? ((listText written).toList ++ '\x7d' :: rest) = some (written, rest) := by
  induction written with
  | nil =>
      rw [labels?]
      rfl
  | cons label others ih =>
      obtain ⟨name, later⟩ := List.forall_mem_cons.mp named
      cases others with
      | nil => rw [listText_singleton, labels?_last name]
      | cons next others =>
          rw [toList_listText_cons, List.append_assoc, List.cons_append, labels?_comma name,
            ih later]
          rfl

end Reader

/-- Labels between braces, as they are written. -/
def braced (written : List (String × String)) : String :=
  "\x7b" ++ listText written ++ "\x7d"

section Carried

variable {pool : String} {tags : List (String × String)}

/-- The labels of every sample: the pool's name, unless a tag takes its place, and the tags. -/
def carried (pool : String) (tags : List (String × String)) : List (String × String) :=
  if "pool" ∈ tags.map Prod.fst then tags else ("pool", pool) :: tags

theorem labels_rows_perm (once : (tags.map Prod.fst).Nodup) :
    (labels pool tags).rows.Perm (carried pool tags) := by
  have distinct : (⟨[("pool", pool)]⟩ : Table String String).keys.Nodup := List.nodup_singleton _
  refine (Table.rows_foldl_set_perm once distinct).trans ?_
  unfold carried
  split
  · rename_i taken
    rw [List.filter_cons_of_neg (by simpa using taken), List.filter_nil, List.append_nil]
  · rename_i free
    rw [List.filter_cons_of_pos (by simpa using free), List.filter_nil]
    exact List.perm_append_singleton _ _

/-- The text of the labels lists what every sample carries, in some order. -/
theorem exists_labelsText (pool : String) (once : (tags.map Prod.fst).Nodup) :
    ∃ written : List (String × String), written.Perm (carried pool tags) ∧
      labelsText pool tags = braced written := by
  have sorted := List.mergeSort_perm ((labels pool tags).rows.map labelText)
    (fun a b => decide (a ≤ b))
  obtain ⟨written, same, perm⟩ := (congrFun₂ (List.eq_map_comp_perm labelText) _ _).mpr sorted
  exact ⟨written, perm.trans (labels_rows_perm once), by rw [labelsText, same, braced, listText]⟩

theorem named_carried (named : ∀ tag ∈ tags, Reader.isLabelName tag.1 = true) :
    ∀ label ∈ carried pool tags, Reader.isLabelName label.1 = true := by
  unfold carried
  split
  · exact named
  · exact List.forall_mem_cons.mpr ⟨(by decide : Reader.isLabelName "pool" = true), named⟩

end Carried

theorem newline_notMem_escapeChar (c : Char) : '\n' ∉ escapeChar c := by
  unfold escapeChar
  split
  case h_4 plain newline quote => simpa using fun same => newline same.symm
  all_goals decide

theorem newline_notMem_labelText {label : String × String}
    (named : Reader.isLabelName label.1 = true) : '\n' ∉ (labelText label).toList := by
  have name : '\n' ∉ label.1.toList := Reader.notMem_of_isWord named rfl rfl
  simp [toList_labelText, name, newline_notMem_escapeChar]

theorem newline_notMem_listText {written : List (String × String)}
    (named : ∀ label ∈ written, Reader.isLabelName label.1 = true) :
    '\n' ∉ (listText written).toList := by
  induction written with
  | nil => simp [listText]
  | cons label others ih =>
      obtain ⟨name, later⟩ := List.forall_mem_cons.mp named
      cases others with
      | nil =>
          rw [listText_singleton]
          exact newline_notMem_labelText name
      | cons next others => simp [toList_listText_cons, newline_notMem_labelText name, ih later]

end ResourcePool.Exposition
