import ResourcePool.Metrics.Exposition

/-! A reader of the text exposition format, for samples of whole numbers without a time. It
knows nothing of how the text is written: names may be any, blanks may stand between the parts
of a line, labels come in any order, and a type line holds for all later samples of its metric. -/
namespace ResourcePool.Exposition

structure Sample where
  metric : String
  /-- As the type line of the metric says; nothing without one. -/
  kind : Option Kind
  labels : List (String × String)
  value : Int
deriving DecidableEq, Repr

namespace Reader

def isBlank (c : Char) : Bool := c = ' ' || c = '\t'

def isLabelStart (c : Char) : Bool := c.isAlpha || c = '_'

def isLabelPart (c : Char) : Bool := c.isAlphanum || c = '_'

def isMetricStart (c : Char) : Bool := isLabelStart c || c = ':'

def isMetricPart (c : Char) : Bool := isLabelPart c || c = ':'

def isWord (start part : Char → Bool) : List Char → Bool
  | [] => false
  | first :: rest => start first && rest.all part

def isLabelName (name : String) : Bool := isWord isLabelStart isLabelPart name.toList

def isMetricName (name : String) : Bool := isWord isMetricStart isMetricPart name.toList

def skip (cs : List Char) : List Char := cs.dropWhile isBlank

/-- What follows a character, which blanks may precede. -/
def expect? (c : Char) (cs : List Char) : Option (List Char) :=
  match skip cs with
  | [] => none
  | first :: rest => if first = c then some rest else none

/-- The longest word at the front, which blanks may precede, and what follows it. -/
def word? (start part : Char → Bool) (cs : List Char) : Option (String × List Char) :=
  match skip cs with
  | [] => none
  | first :: rest =>
      if start first then some (.ofList (first :: rest.takeWhile part), rest.dropWhile part)
      else none

/-- The text up to the closing quote with its escapes undone, and what follows the quote. -/
def quoted? : List Char → Option (List Char × List Char)
  | [] => none
  | '"' :: rest => some ([], rest)
  | '\\' :: '\\' :: rest => (quoted? rest).map fun (text, rest) => ('\\' :: text, rest)
  | '\\' :: 'n' :: rest => (quoted? rest).map fun (text, rest) => ('\n' :: text, rest)
  | '\\' :: '"' :: rest => (quoted? rest).map fun (text, rest) => ('"' :: text, rest)
  | '\\' :: _ => none
  | c :: rest => (quoted? rest).map fun (text, rest) => (c :: text, rest)

def label? (cs : List Char) : Option ((String × String) × List Char) := do
  let (name, rest) ← word? isLabelStart isLabelPart cs
  let rest ← expect? '=' rest
  let rest ← expect? '"' rest
  let (value, rest) ← quoted? rest
  return ((name, .ofList value), rest)

theorem length_skip_le (cs : List Char) : (skip cs).length ≤ cs.length :=
  (List.dropWhile_sublist _).length_le

theorem length_of_expect? {c : Char} {cs rest : List Char} (read : expect? c cs = some rest) :
    rest.length < cs.length := by
  have skipped := length_skip_le cs
  unfold expect? at read
  split at read
  · contradiction
  · rename_i first tail found
    split at read
    · cases read
      rw [found] at skipped
      exact skipped
    · contradiction

theorem length_of_word? {start part : Char → Bool} {cs rest : List Char} {word : String}
    (read : word? start part cs = some (word, rest)) : rest.length < cs.length := by
  have skipped := length_skip_le cs
  unfold word? at read
  split at read
  · contradiction
  · rename_i first tail found
    split at read
    · cases read
      rw [found] at skipped
      have := (List.dropWhile_sublist part (l := tail)).length_le
      simp only [List.length_cons] at skipped
      omega
    · contradiction

theorem length_of_quoted? {cs text rest : List Char} (read : quoted? cs = some (text, rest)) :
    rest.length < cs.length := by
  fun_induction quoted? cs generalizing text with
  | case1 | case6 => contradiction
  | case2 =>
      cases read
      exact Nat.lt_succ_self _
  | case3 cs ih | case4 cs ih | case5 cs ih | case7 c cs _ _ _ _ _ ih =>
      obtain ⟨⟨text, rest⟩, inner, same⟩ := Option.map_eq_some_iff.mp read
      cases same
      have := ih inner
      simp only [List.length_cons]
      omega

theorem length_of_label? {cs rest : List Char} {label : String × String}
    (read : label? cs = some (label, rest)) : rest.length < cs.length := by
  simp only [label?, bind, Option.bind_eq_some_iff, pure, Option.some.injEq] at read
  obtain ⟨⟨name, first⟩, named, second, equals, third, opened, ⟨value, last⟩, closed, same⟩ := read
  cases same
  calc last.length
    _ < third.length := length_of_quoted? closed
    _ < second.length := length_of_expect? opened
    _ < first.length := length_of_expect? equals
    _ < cs.length := length_of_word? named

/-- Labels up to the closing brace; a comma may follow the last one. -/
def labels? (cs : List Char) : Option (List (String × String) × List Char) :=
  match expect? '\x7d' cs with
  | some rest => some ([], rest)
  | none =>
    match _ : label? cs with
    | none => none
    | some (label, after) =>
      match _ : expect? ',' after with
      | some rest => (labels? rest).map fun (labels, rest) => (label :: labels, rest)
      | none => (expect? '\x7d' after).map fun rest => ([label], rest)
termination_by cs.length
decreasing_by
  exact Nat.lt_trans (length_of_expect? ‹_›) (length_of_label? ‹_›)

def number? (cs : List Char) : Option Int :=
  match skip cs with
  | '-' :: digits => if isDigits digits then some (-ofDigits digits) else none
  | digits => if isDigits digits then some (ofDigits digits) else none
where
  isDigits (cs : List Char) : Bool := !cs.isEmpty && cs.all Char.isDigit
  ofDigits (cs : List Char) : Int := Nat.ofDigitChars 10 cs 0

def words (cs : List Char) : List String :=
  ((cs.splitOnP isBlank).filter (!·.isEmpty)).map .ofList

def kind? (name : String) : Option Kind := [Kind.gauge, .counter].find? (·.render = name)

inductive Line where
  /-- Comments, helps and blank lines. -/
  | remark
  | type (metric : String) (kind : Kind)
  | sample (metric : String) (labels : List (String × String)) (value : Int)
deriving DecidableEq, Repr

def sample? (cs : List Char) : Option Line := do
  let (metric, rest) ← word? isMetricStart isMetricPart cs
  let (labels, rest) ←
    match expect? '\x7b' rest with
    | some rest => labels? rest
    | none => some ([], rest)
  let value ← number? rest
  return .sample metric labels value

def line? (cs : List Char) : Option Line :=
  match skip cs with
  | [] => some .remark
  | '#' :: comment =>
      match words comment with
      | ["TYPE", metric, kind] =>
          if isMetricName metric then (kind? kind).map (.type metric) else none
      | "TYPE" :: _ => none
      | _ => some .remark
  | cs => sample? cs

/-- Samples in order; a metric has at most one type line. -/
def samples? (kinds : List (String × Kind)) : List (List Char) → Option (List Sample)
  | [] => some []
  | line :: rest =>
      match line? line with
      | none => none
      | some .remark => samples? kinds rest
      | some (.type metric kind) =>
          if (kinds.lookup metric).isSome then none else samples? ((metric, kind) :: kinds) rest
      | some (.sample metric labels value) =>
          (samples? kinds rest).map (⟨metric, kinds.lookup metric, labels, value⟩ :: ·)

def read? (text : String) : Option (List Sample) := samples? [] (text.toList.splitOn '\n')

end Reader
end ResourcePool.Exposition
