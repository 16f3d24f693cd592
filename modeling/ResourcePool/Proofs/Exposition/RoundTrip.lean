import ResourcePool.Proofs.Exposition.Labels

/-! The exposition of a pool's metrics read back: one sample for each datum that is counted, with
the value under which the datum is listed, whatever the pool's name and the tags are. -/
namespace ResourcePool.Exposition

/-- All that is counted is below `2 ^ 53`, so that a double holds it exactly. -/
structure Exact (m : Metrics) : Prop where
  counters : ∀ counter, (m.counters.get counter).toNat < Nat.pow 2 53
  size : m.size < Nat.pow 2 53
  available : m.available < Nat.pow 2 53

/-- The lines as one text, a line feed after each. -/
def text (m : Metrics) (pool : String) (tags : List (String × String)) : String :=
  String.join ((lines m pool tags).map (· ++ "\n"))

/-- What the reader gives for a family. -/
def sampleOf (m : Metrics) (written : List (String × String)) (family : Family) : Sample :=
  ⟨fullName family, some family.kind, written, family.value m⟩

section Lines

open Reader

theorem toList_toString (n : Nat) : (toString n).toList = Nat.toDigits 10 n := by
  rw [Nat.toString_eq_repr, Nat.toList_repr]

theorem isDigit_of_mem_toDigits {n : Nat} {c : Char} (member : c ∈ Nat.toDigits 10 n) :
    c.isDigit = true :=
  Nat.isDigit_of_mem_toDigits (by decide) (by decide) member

theorem number?_toString (n : Nat) : number? (' ' :: (toString n).toList) = some (n : Int) := by
  have allDigits : ∀ c ∈ Nat.toDigits 10 n, c.isDigit = true := fun c => isDigit_of_mem_toDigits
  have value : Nat.ofDigitChars 10 (Nat.toDigits 10 n) 0 = n := Nat.ofDigitChars_ten_toDigits
  rw [toList_toString]
  cases spelled : Nat.toDigits 10 n with
  | nil => exact absurd spelled Nat.toDigits_ne_nil
  | cons first others =>
      rw [spelled] at allDigits value
      have digit : first.isDigit = true := allDigits first List.mem_cons_self
      have solid : isBlank first = false := by
        refine isBlank_eq_false ?_ ?_ <;> rintro rfl <;> contradiction
      have skipped : skip (' ' :: first :: others) = first :: others := skip_cons solid others
      have proper : number?.isDigits (first :: others) = true := by
        simpa [number?.isDigits] using allDigits
      rw [number?, skipped]
      split
      · rename_i negative
        cases negative
        contradiction
      · rw [if_pos proper, number?.ofDigits, value]

theorem line?_of_isMetricStart {first : Char} (start : isMetricStart first = true)
    (rest : List Char) : line? (first :: rest) = sample? (first :: rest) := by
  rw [line?, skip_cons (isBlank_of_isMetricStart start)]
  split
  · contradiction
  · rename_i comment
    cases comment
    contradiction
  · rfl

theorem words_blank (rest : List Char) : words (' ' :: rest) = words rest := by
  have blank : isBlank ' ' = true := rfl
  rw [words, List.splitOnP_cons_eq_if_modifyHead, if_pos blank, List.filter_cons_of_neg (by simp),
    words]

theorem words_append {word : String} (solid : ∀ c ∈ word.toList, isBlank c = false)
    (filled : word ≠ "") (rest : List Char) :
    words (word.toList ++ ' ' :: rest) = word :: words rest := by
  rw [words, List.splitOnP_append_cons_of_forall_mem solid ' ' rfl,
    List.filter_cons_of_pos (by simpa using filled), List.map_cons, String.ofList_toList, words]

theorem isBlank_of_mem_name {metric : String} (name : isMetricName metric = true) :
    ∀ c ∈ metric.toList, isBlank c = false := by
  intro c member
  refine isBlank_eq_false ?_ ?_ <;> rintro rfl
  all_goals exact notMem_of_isWord name rfl rfl member

theorem line?_help (metric help : String) :
    line? ("# HELP " ++ metric ++ " " ++ help).toList = some .remark := by
  have spelled : ("# HELP " ++ metric ++ " " ++ help).toList =
      '#' :: ' ' :: ("HELP".toList ++ ' ' :: (metric.toList ++ ' ' :: help.toList)) := by
    simp
  have first := @words_append "HELP" (by simp [isBlank]) (by decide)
    (metric.toList ++ ' ' :: help.toList)
  rw [spelled, line?, skip_cons rfl]
  simp only [words_blank, first]
  rfl

theorem line?_type {metric : String} (name : isMetricName metric = true) (kind : Kind) :
    line? ("# TYPE " ++ metric ++ " " ++ kind.render).toList = some (.type metric kind) := by
  have spelled : ("# TYPE " ++ metric ++ " " ++ kind.render).toList =
      '#' :: ' ' :: ("TYPE".toList ++ ' ' :: (metric.toList ++ ' ' :: kind.render.toList)) := by
    simp
  have solid := isBlank_of_mem_name name
  have filled : metric ≠ "" := by
    rintro rfl
    contradiction
  have last : words kind.render.toList = [kind.render] := by cases kind <;> decide +kernel
  have known : kind? kind.render = some kind := by cases kind <;> rfl
  have read := @words_append "TYPE" (by simp [isBlank]) (by decide)
    (metric.toList ++ ' ' :: kind.render.toList)
  rw [words_append solid filled, last] at read
  rw [spelled, line?, skip_cons rfl]
  simp only [words_blank, read, name, if_true, known, Option.map_some]

/-- A family whose lines can be read. -/
structure Proper (family : Family) : Prop where
  name : isMetricName (fullName family) = true
  help : '\n' ∉ family.help.toList

theorem proper_of_mem {family : Family} (member : family ∈ families) : Proper family := by
  have names : ∀ family ∈ families, isMetricName (fullName family) = true := by decide +kernel
  have helps : ∀ family ∈ families, '\n' ∉ family.help.toList := by decide +kernel
  exact ⟨names family member, helps family member⟩

variable {m : Metrics} {written : List (String × String)} {family : Family}

theorem valueText_of_lt (small : family.value m < Nat.pow 2 53) :
    valueText family m = toString (family.value m) := by
  unfold valueText
  split
  · exact Decimal.shortestSigned_of_lt small
  · exact Decimal.shortestWhole_of_lt small

theorem sample?_line (name : isMetricName (fullName family) = true)
    (named : ∀ label ∈ written, isLabelName label.1 = true) (value : Nat) :
    sample? (fullName family ++ braced written ++ " " ++ toString value).toList =
      some (.sample (fullName family) written value) := by
  have spelled : (fullName family ++ braced written ++ " " ++ toString value).toList =
      (fullName family).toList ++ '\x7b' :: ((listText written).toList ++
        '\x7d' :: ' ' :: (toString value).toList) := by
    simp [braced]
  have metric := word?_append name (fun c => isBlank_of_isMetricStart)
    ('\x7b' :: ((listText written).toList ++ '\x7d' :: ' ' :: (toString value).toList))
    (fun c first => by cases first; rfl)
  simp only [spelled, sample?, metric, Option.bind_eq_bind, Option.bind_some,
    expect?_cons (c := '\x7b') rfl, if_true, labels?_listText named, number?_toString, pure]

theorem line?_sample (name : isMetricName (fullName family) = true)
    (named : ∀ label ∈ written, isLabelName label.1 = true) (value : Nat) :
    line? (fullName family ++ braced written ++ " " ++ toString value).toList =
      some (.sample (fullName family) written value) := by
  rw [← sample?_line name named value]
  obtain ⟨first, others, spelled, begun, _⟩ := isWord_cases name
  simp only [String.toList_append, spelled, List.cons_append]
  exact line?_of_isMetricStart begun _

/-- The lines of a family give its sample, if it has no type line before. -/
theorem samples?_familyLines {kinds : List (String × Kind)} (proper : Proper family)
    (small : family.value m < Nat.pow 2 53) (named : ∀ label ∈ written, isLabelName label.1 = true)
    (fresh : kinds.lookup (fullName family) = none) (later : List (List Char)) :
    samples? kinds ((familyLines (braced written) m family).map String.toList ++ later) =
      (samples? ((fullName family, family.kind) :: kinds) later).map
        (sampleOf m written family :: ·) := by
  have sample := line?_sample proper.name named (family.value m)
  rw [← valueText_of_lt small] at sample
  simp only [familyLines, List.map_cons, List.map_nil, List.cons_append, List.nil_append,
    samples?, line?_help, line?_type proper.name, sample, fresh, Option.isSome_none,
    List.lookup_cons, beq_self_eq_true]
  rfl

theorem samples?_families {kinds : List (String × Kind)} {fs : List Family}
    (proper : ∀ family ∈ fs, Proper family) (small : ∀ family ∈ fs, family.value m < Nat.pow 2 53)
    (named : ∀ label ∈ written, isLabelName label.1 = true) (distinct : (fs.map fullName).Nodup)
    (fresh : ∀ family ∈ fs, kinds.lookup (fullName family) = none) :
    samples? kinds ((fs.flatMap (familyLines (braced written) m)).map String.toList ++ [[]]) =
      some (fs.map (sampleOf m written)) := by
  -- The kinds that are known grow by a name that no later family has.
  induction fs generalizing kinds with
  | nil => rfl
  | cons family others ih =>
      obtain ⟨proper, properOthers⟩ := List.forall_mem_cons.mp proper
      obtain ⟨small, smallOthers⟩ := List.forall_mem_cons.mp small
      obtain ⟨fresh, freshOthers⟩ := List.forall_mem_cons.mp fresh
      obtain ⟨absent, distinct⟩ := List.nodup_cons.mp distinct
      have freshLater : ∀ other ∈ others,
          ((fullName family, family.kind) :: kinds).lookup (fullName other) = none := by
        intro other member
        have different : fullName other ≠ fullName family := fun same =>
          absent (same ▸ List.mem_map_of_mem member)
        rw [List.lookup_cons, beq_false_of_ne different]
        exact freshOthers other member
      rw [List.flatMap_cons, List.map_append, List.append_assoc,
        samples?_familyLines proper small named fresh,
        ih properOthers smallOthers distinct freshLater]
      rfl

theorem newline_notMem_familyLines (proper : Proper family) (small : family.value m < Nat.pow 2 53)
    (named : ∀ label ∈ written, isLabelName label.1 = true) :
    ∀ line ∈ familyLines (braced written) m family, '\n' ∉ line.toList := by
  have value : '\n' ∉ (valueText family m).toList := by
    rw [valueText_of_lt small, toList_toString]
    exact fun member => absurd (isDigit_of_mem_toDigits member) (by decide)
  have name : '\n' ∉ (fullName family).toList := notMem_of_isWord proper.name rfl rfl
  have kind : '\n' ∉ family.kind.render.toList := by cases family.kind <;> decide
  have labels := newline_notMem_listText named
  intro line member
  simp only [familyLines, List.mem_cons, List.not_mem_nil, or_false] at member
  obtain rfl | rfl | rfl := member
  · simp [name, proper.help]
  · simp [name, kind]
  · simpa [braced, name, value] using labels

/-- Lines are read one by one; the end of the last one leaves an empty line behind. -/
theorem read?_lines {ls : List String} (ends : ∀ line ∈ ls, '\n' ∉ line.toList) :
    read? (String.join (ls.map (· ++ "\n"))) = samples? [] (ls.map String.toList ++ [[]]) := by
  have split : (String.join (ls.map (· ++ "\n"))).toList.splitOn '\n' =
      ls.map String.toList ++ [[]] := by
    induction ls with
    | nil => rfl
    | cons line others ih =>
        obtain ⟨ended, later⟩ := List.forall_mem_cons.mp ends
        rw [String.toList_join] at ih ⊢
        have newline : "\n".toList = ['\n'] := rfl
        rw [List.map_cons, List.flatMap_cons, String.toList_append, newline, List.append_assoc,
          List.singleton_append, List.splitOn_append_cons_self_of_not_mem ended, ih later]
        rfl
  rw [read?, split]

end Lines

variable {m : Metrics} {pool : String} {tags : List (String × String)}

theorem Exact.value_lt (bounds : Exact m) : ∀ family ∈ families, family.value m < Nat.pow 2 53 := by
  simp only [families, List.forall_mem_cons]
  exact ⟨bounds.counters _, bounds.counters _, bounds.counters _, bounds.counters _,
    bounds.counters _, bounds.counters _, bounds.counters _, bounds.counters _, bounds.available,
    bounds.size, bounds.counters _, bounds.counters _, fun _ => nofun⟩

/-- The families are read in their order, each with the same labels. -/
theorem read?_text (pool : String) (bounds : Exact m)
    (named : ∀ tag ∈ tags, Reader.isLabelName tag.1 = true) (once : (tags.map Prod.fst).Nodup) :
    ∃ written : List (String × String), written.Perm (carried pool tags) ∧
      Reader.read? (text m pool tags) = some (families.map (sampleOf m written)) := by
  obtain ⟨written, perm, shown⟩ := exists_labelsText pool once
  have namedAll : ∀ label ∈ written, Reader.isLabelName label.1 = true := fun label member =>
    named_carried named label (perm.mem_iff.mp member)
  have ends : ∀ line ∈ lines m pool tags, '\n' ∉ line.toList := by
    intro line member
    obtain ⟨family, among, member⟩ := List.mem_flatMap.mp member
    rw [shown] at member
    exact newline_notMem_familyLines (proper_of_mem among) (bounds.value_lt family among) namedAll
      line member
  refine ⟨written, perm, ?_⟩
  rw [text, read?_lines ends, lines, shown]
  exact samples?_families (fun family => proper_of_mem) bounds.value_lt namedAll
    (by decide +kernel) (fun _ _ => rfl)

/-- A series of the exposition, and the name under which its value is listed. -/
structure Series where
  metric : String
  kind : Kind
  datum : String
deriving DecidableEq, Repr

def series : List Series := [
  ⟨"sharedpool_clears_total", .counter, "clears"⟩,
  ⟨"sharedpool_created_total", .counter, "total_created"⟩,
  ⟨"sharedpool_discarded_total", .counter, "discarded_returns"⟩,
  ⟨"sharedpool_disposed_total", .counter, "disposed"⟩,
  ⟨"sharedpool_emergency_created_total", .counter, "emergency_created"⟩,
  ⟨"sharedpool_evicted_total", .counter, "evicted"⟩,
  ⟨"sharedpool_factory_failures_total", .counter, "factory_failures"⟩,
  ⟨"sharedpool_leased_total", .counter, "total_leased"⟩,
  ⟨"sharedpool_resources_available", .gauge, "available"⟩,
  ⟨"sharedpool_resources_size", .gauge, "size"⟩,
  ⟨"sharedpool_resources_unhealthy", .gauge, "unhealthy"⟩,
  ⟨"sharedpool_returned_total", .counter, "total_returned"⟩]

/-- A sample of a series with some labels and the value that is listed for its datum. -/
structure Shows (m : Metrics) (labels : List (String × String)) (row : Series) (sample : Sample) :
    Prop where
  metric : sample.metric = row.metric
  kind : sample.kind = some row.kind
  value : m.entries.lookup row.datum = some (toString sample.value)
  labels : sample.labels.Perm labels

theorem shows_families {written labels : List (String × String)} (perm : written.Perm labels) :
    List.Forall₂ (Shows m labels) series (families.map (sampleOf m written)) := by
  simp only [series, families, List.map_cons, List.map_nil, List.forall₂_cons, List.Forall₂.nil,
    and_true]
  and_intros
  all_goals exact ⟨rfl, rfl, rfl, perm⟩

/-- A reader of the exposition gets the metrics back: twelve samples, one for each datum that is
listed but the utilization, each with the kind of its series, the value that is listed and the
labels that every sample carries. -/
theorem metrics_read_back (bounds : Exact m)
    (named : ∀ tag ∈ tags, Reader.isLabelName tag.1 = true) (once : (tags.map Prod.fst).Nodup) :
    ∃ samples, Reader.read? (text m pool tags) = some samples ∧
      samples.length = 12 ∧ (samples.map (·.metric)).Nodup ∧
      List.Forall₂ (Shows m (carried pool tags)) series samples ∧
      (m.entries.map Prod.fst).Perm ("utilization" :: series.map (·.datum)) := by
  obtain ⟨written, perm, read⟩ := read?_text pool bounds named once
  have distinct : (families.map fullName).Nodup := by decide +kernel
  have listed : m.entries.map Prod.fst = Counter.all.map Counter.name ++
      ["size", "available", "utilization"] := rfl
  refine ⟨_, read, rfl, distinct, shows_families perm, ?_⟩
  rw [listed]
  decide +kernel

/-- Quotes, backslashes, line feeds and the signs between labels may all stand in values. -/
theorem metrics_read_back_escaped :
    Exact { counters := { created := 9007199254740991, unhealthy := 2 }, size := 3 } ∧
    ∃ samples,
      Reader.read? (text { counters := { created := 9007199254740991, unhealthy := 2 }, size := 3 }
        "a\"b\\n\nc" [("zone", "1\",x=\"\x7d 7\n#")]) = some samples ∧
      samples.length = 12 ∧ (samples.map (·.metric)).Nodup ∧
      List.Forall₂
        (Shows { counters := { created := 9007199254740991, unhealthy := 2 }, size := 3 }
          [("pool", "a\"b\\n\nc"), ("zone", "1\",x=\"\x7d 7\n#")]) series samples := by
  have bounds : Exact
      { counters := { created := 9007199254740991, unhealthy := 2 }, size := 3 } :=
    ⟨fun counter => by cases counter <;> decide, by decide, by decide⟩
  obtain ⟨samples, read, count, distinct, shows, _⟩ :=
    @metrics_read_back _ "a\"b\\n\nc" [("zone", "1\",x=\"\x7d 7\n#")] bounds (by decide)
      (by decide)
  exact ⟨bounds, samples, read, count, distinct, shows⟩

/-- A tag named as the pool's label takes its place: no sample carries the pool's own name. -/
theorem pool_label_replaced :
    ∃ samples, Reader.read? (text {} "orders" [("pool", "other")]) = some samples ∧
      samples.length = 12 ∧ ∀ sample ∈ samples, ("pool", "orders") ∉ sample.labels := by
  have bounds : Exact {} := ⟨fun counter => by cases counter <;> decide, by decide, by decide⟩
  obtain ⟨written, perm, read⟩ :=
    @read?_text {} [("pool", "other")] "orders" bounds (by decide) (by decide)
  refine ⟨_, read, rfl, fun sample member => ?_⟩
  obtain ⟨family, _, rfl⟩ := List.mem_map.mp member
  have absent : ("pool", "orders") ∉ carried "orders" [("pool", "other")] := by decide
  exact fun carries => absent (perm.mem_iff.mp carries)

end ResourcePool.Exposition
