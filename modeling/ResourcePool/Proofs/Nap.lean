import Mathlib.Algebra.Order.Floor.Div
import ResourcePool.Nap

/-! When a sleeper looks. If the part of a pause is whole ticks, every slice but the last is
as long as the part, and the last one ends at the first tick at which the pause is over. A
sleeper does not look at all if the clock cannot tell the end of the pause. -/
namespace ResourcePool.Nap
open Alarm

/-- The ticks of a full slice. -/
def slice (part : Duration) : Nat := max part.nanos nanosPerTick / nanosPerTick

/-- The ticks of a whole pause. -/
def length (time : Duration) : Nat := time.nanos ⌈/⌉ nanosPerTick

/-- The number of slices of a pause. -/
def slices (time part : Duration) : Nat := time.nanos ⌈/⌉ max part.nanos nanosPerTick

/-- When a sleeper that is never called off looks for the `k`-th time, counted from zero. -/
def lookAt (time part : Duration) (start k : Nat) : Nat :=
  start + min (k * slice part) (length time)

variable {time part : Duration} {alarm : Alarm} {start k : Nat}

theorem lookAt_zero (time part : Duration) (start : Nat) : lookAt time part start 0 = start := by
  rw [lookAt, Nat.zero_mul, Nat.zero_min, Nat.add_zero]

theorem lt_length_iff (ticks : Nat) : ticks < length time ↔ nanosPerTick * ticks < time.nanos := by
  rw [length, ← Nat.not_le, ceilDiv_le_iff_le_mul nanosPerTick_pos, Nat.not_le]

theorem lt_slices_iff (k : Nat) :
    k < slices time part ↔ max part.nanos nanosPerTick * k < time.nanos := by
  have positive := Nat.lt_of_lt_of_le nanosPerTick_pos (Nat.le_max_right part.nanos nanosPerTick)
  rw [slices, ← Nat.not_le, ceilDiv_le_iff_le_mul positive, Nat.not_le]

/-- What is left of a pause some ticks after its start. -/
theorem remains_start (time part : Duration) (start ticks : Nat) :
    (Nap.start time part start).remains (start + ticks) =
      min (time.nanos - nanosPerTick * ticks) (max part.nanos nanosPerTick) := by
  rw [remains, Nap.start, Nat.mul_add, Nat.add_sub_add_left]

theorem lookAt_succ_le (time part : Duration) (start k : Nat) :
    lookAt time part start (k + 1) ≤ lookAt time part start k + slice part := by
  simp only [lookAt, Nat.succ_mul]
  omega

theorem slice_pos (part : Duration) : 0 < slice part :=
  Nat.div_pos (Nat.le_max_right ..) nanosPerTick_pos

theorem ticks_eq (reaches : ∀ furthest ∈ alarm.furthest, slice part ≤ furthest) {nanos : Nat}
    (short : nanos ≤ nanosPerTick * slice part) : alarm.ticks nanos = nanos ⌈/⌉ nanosPerTick := by
  have bound : nanos ⌈/⌉ nanosPerTick ≤ slice part :=
    (ceilDiv_le_iff_le_mul nanosPerTick_pos).mpr short
  have rounded : (nanos + (nanosPerTick - 1)) / nanosPerTick = nanos ⌈/⌉ nanosPerTick := by
    rw [Nat.ceilDiv_eq_add_pred_div, Nat.add_sub_assoc nanosPerTick_pos]
  rw [Alarm.ticks, rounded, Alarm.reach]
  cases limit : alarm.furthest with
  | none => rw [Option.elim_none]
  | some furthest =>
      rw [Option.elim_some, Nat.min_eq_left (Nat.le_trans bound (reaches furthest limit))]

section Range
variable {goOn : Nat → Nat → Bool}

theorem tells_iff (instant : Nat) :
    alarm.tells instant = true ↔ ∀ last ∈ alarm.last, instant ≤ last := by
  unfold Alarm.tells
  cases alarm.last <;> simp

theorem sleep_within
    (within : ∀ last ∈ alarm.last, nanosPerTick * start + time.nanos ≤ last) :
    Nap.sleep alarm time part goOn start =
      .ok ((Nap.start time part start).looks alarm goOn 0 start) := by
  have begun : begin? alarm time part start = some (Nap.start time part start) :=
    if_pos ((tells_iff _).mpr within)
  rw [Nap.sleep, begun]

theorem sleep_beyond {last : Nat} (limit : alarm.last = some last)
    (beyond : last < nanosPerTick * start + time.nanos) :
    Nap.sleep alarm time part goOn start = .error overflow := by
  have silent : begin? alarm time part start = none :=
    if_neg fun told => Nat.not_lt_of_le ((tells_iff _).mp told last limit) beyond
  rw [Nap.sleep, silent]

end Range

section Looks
variable {n : Nap} {goOn : Nat → Nat → Bool} {asked now wake : Nat}

theorem looks_of_false (told : goOn asked now = false) : n.looks alarm goOn asked now = [now] := by
  rw [looks, told, if_neg Bool.false_ne_true]

theorem looks_of_none (ended : n.wake? alarm now = none) :
    n.looks alarm goOn asked now = [now] := by
  unfold looks
  split
  · split <;> simp_all
  · rfl

theorem looks_of_true (told : goOn asked now = true) (woken : n.wake? alarm now = some wake) :
    n.looks alarm goOn asked now = now :: n.looks alarm goOn (asked + 1) wake := by
  rw [looks, if_pos told]
  split <;> simp_all

end Looks

section Whole
variable (whole : part.nanos < nanosPerTick ∨ nanosPerTick ∣ part.nanos)
include whole

theorem nanosPerTick_mul_slice : nanosPerTick * slice part = max part.nanos nanosPerTick := by
  refine Nat.mul_div_cancel' ?_
  rcases whole with short | whole
  · rw [Nat.max_eq_right (Nat.le_of_lt short)]
  · rcases Nat.le_total part.nanos nanosPerTick with short | long
    · rw [Nat.max_eq_right short]
    · rwa [Nat.max_eq_left long]

theorem lt_slices_iff_lt_length : k < slices time part ↔ k * slice part < length time := by
  rw [lt_slices_iff, lt_length_iff, ← nanosPerTick_mul_slice whole, Nat.mul_assoc,
    Nat.mul_comm k]

theorem lookAt_slices (start : Nat) :
    lookAt time part start (slices time part) = start + length time := by
  have passed : ¬ slices time part * slice part < length time :=
    (lt_slices_iff_lt_length whole).not.mp (Nat.lt_irrefl _)
  rw [lookAt, Nat.min_eq_right (Nat.le_of_not_lt passed)]

theorem lookAt_of_lt (early : k < slices time part) (start : Nat) :
    lookAt time part start k = start + k * slice part := by
  have short := (lt_slices_iff_lt_length whole).mp early
  rw [lookAt, Nat.min_eq_left (Nat.le_of_lt short)]

theorem lookAt_lt_succ (early : k < slices time part) (start : Nat) :
    lookAt time part start k < lookAt time part start (k + 1) := by
  have short := (lt_slices_iff_lt_length whole).mp early
  have positive := slice_pos part
  rw [lookAt_of_lt whole early, lookAt, Nat.succ_mul]
  omega

/-- A look that is not the last one is followed by the next one. -/
theorem wake?_lookAt_of_lt (reaches : ∀ furthest ∈ alarm.furthest, slice part ≤ furthest)
    (early : k < slices time part) (start : Nat) :
    (Nap.start time part start).wake? alarm (lookAt time part start k) =
      some (lookAt time part start (k + 1)) := by
  have short := (lt_slices_iff_lt_length whole).mp early
  have unslept : 0 < time.nanos - nanosPerTick * (k * slice part) :=
    Nat.sub_pos_of_lt ((lt_length_iff _).mp short)
  have positive := Nat.mul_pos nanosPerTick_pos (slice_pos part)
  have slept : alarm.ticks (min (time.nanos - nanosPerTick * (k * slice part))
      (nanosPerTick * slice part)) = min (length time - k * slice part) (slice part) := by
    rw [ticks_eq reaches (Nat.min_le_right ..), length, Nat.ceilDiv_eq_add_pred_div,
      Nat.ceilDiv_eq_add_pred_div]
    simp only [nanosPerTick]
    omega
  rw [lookAt_of_lt whole early, wake?, remains_start, ← nanosPerTick_mul_slice whole,
    if_neg (Nat.ne_of_gt (Nat.lt_min.mpr ⟨unslept, positive⟩)), slept, lookAt, Nat.succ_mul]
  congr 1
  omega

theorem wake?_lookAt_slices (alarm : Alarm) (start : Nat) :
    (Nap.start time part start).wake? alarm (lookAt time part start (slices time part)) =
      none := by
  have passed : time.nanos ≤ nanosPerTick * length time :=
    Nat.le_of_not_lt ((lt_length_iff _).not.mp (Nat.lt_irrefl _))
  rw [lookAt_slices whole, wake?, remains_start, Nat.sub_eq_zero_of_le passed, Nat.zero_min,
    if_pos rfl]

/-- From any look on, a sleeper looks once more than it is told to go on. -/
theorem looks_lookAt (reaches : ∀ furthest ∈ alarm.furthest, slice part ≤ furthest)
    (goOn : Nat → Nat → Bool) (start : Nat) (early : k ≤ slices time part) :
    ∃ n ≤ slices time part, k ≤ n ∧
      (Nap.start time part start).looks alarm goOn k (lookAt time part start k) =
        (List.range' k (n + 1 - k)).map (lookAt time part start) ∧
      (∀ i, k ≤ i → i < n → goOn i (lookAt time part start i) = true) ∧
      (n < slices time part → goOn n (lookAt time part start n) = false) := by
  -- Backwards from the last look, which ends the sleep whatever it is told.
  induction early using Nat.decreasingInduction with
  | self =>
      refine ⟨slices time part, Nat.le_refl _, Nat.le_refl _, ?_, by omega, by omega⟩
      rw [looks_of_none (wake?_lookAt_slices whole alarm start), Nat.add_sub_cancel_left]
      rfl
  | of_succ k early ih =>
      cases told : goOn k (lookAt time part start k) with
      | false =>
          refine ⟨k, Nat.le_of_lt early, Nat.le_refl _, ?_, by omega, fun _ => told⟩
          rw [looks_of_false told, Nat.add_sub_cancel_left]
          rfl
      | true =>
          obtain ⟨n, within, later, looked, going, called⟩ := ih
          refine ⟨n, within, Nat.le_of_succ_le later, ?_, ?_, called⟩
          · rw [looks_of_true told (wake?_lookAt_of_lt whole reaches early start), looked,
              ← List.map_cons, ← List.range'_succ, Nat.succ_sub_succ,
              Nat.sub_add_comm (Nat.le_of_succ_le later)]
          · intro i from_ before
            obtain rfl | after := Nat.eq_or_lt_of_le from_
            · exact told
            · exact going i after before

/-- If the clock can tell the end of a pause, a sleeper looks at the start and after every slice,
the last time when the whole pause is over to the tick and never earlier, unless it is called off
before. Hence one that is called off for good ends its sleep within a slice and does not look
again. A pause with an end that the clock cannot tell is a panic before the first look. -/
theorem sleep_punctual (reaches : ∀ furthest ∈ alarm.furthest, slice part ≤ furthest)
    (goOn : Nat → Nat → Bool) (start : Nat) :
    let limit := nanosPerTick * start + time.nanos
    (∀ k < slices time part, lookAt time part start k < lookAt time part start (k + 1)) ∧
    lookAt time part start (slices time part) = start + length time ∧
    (∀ last ∈ alarm.last, last < limit →
      Nap.sleep alarm time part goOn start = .error overflow) ∧
    ((∀ last ∈ alarm.last, limit ≤ last) → ∃ n ≤ slices time part,
      Nap.sleep alarm time part goOn start =
        .ok ((List.range (n + 1)).map (lookAt time part start)) ∧
      (∀ k < n, goOn k (lookAt time part start k) = true) ∧
      (n < slices time part → goOn n (lookAt time part start n) = false) ∧
      ∀ t, start ≤ t → (∀ asked now, t ≤ now → goOn asked now = false) →
        lookAt time part start n ≤ t + slice part ∧
          ∀ k < n, lookAt time part start k < t) := by
  intro limit
  refine ⟨fun k early => lookAt_lt_succ whole early start, lookAt_slices whole start,
    fun _ range beyond => sleep_beyond range beyond, fun within => ?_⟩
  obtain ⟨n, bound, _, looked, going, called⟩ :=
    looks_lookAt whole reaches goOn start (Nat.zero_le _)
  rw [lookAt_zero, Nat.sub_zero, ← List.range_eq_range'] at looked
  refine ⟨n, bound, (sleep_within within).trans (congrArg _ looked),
    fun k before => going k (Nat.zero_le _) before, called, ?_⟩
  intro t started off
  have before : ∀ k < n, lookAt time part start k < t := by
    intro k earlier
    refine Nat.lt_of_not_le fun late => ?_
    have told := going k (Nat.zero_le _) earlier
    rw [off k _ late] at told
    contradiction
  refine ⟨?_, before⟩
  cases n with
  | zero =>
      rw [lookAt_zero]
      exact Nat.le_add_right_of_le started
  | succ n =>
      exact Nat.le_trans (lookAt_succ_le ..)
        (Nat.add_le_add_right (Nat.le_of_lt (before n (Nat.lt_succ_self n))) _)

end Whole

/-- A sleeper that is called off in the middle of its third slice looks when that slice ends,
and not again. -/
theorem sleep_punctual_called_off :
    Nap.sleep .thirtyYears (.ofMillis 205) (.ofMillis 50) (fun _ now => now < 120) 7 =
      .ok [7, 57, 107, 157] := by
  obtain ⟨_, _, _, comes⟩ := @sleep_punctual (.ofMillis 205) (.ofMillis 50) .thirtyYears
    (Or.inr (by decide)) (by decide) (fun _ now => now < 120) 7
  obtain ⟨n, within, looked, going, called, _⟩ := comes (by decide)
  have third : ∀ n ≤ slices (.ofMillis 205) (.ofMillis 50),
      (∀ k < n, decide (lookAt (.ofMillis 205) (.ofMillis 50) 7 k < 120) = true) →
      (n < slices (.ofMillis 205) (.ofMillis 50) →
        decide (lookAt (.ofMillis 205) (.ofMillis 50) 7 n < 120) = false) → n = 3 := by
    decide
  rw [looked, third n within going called]
  decide

/-- The longest duration there is cannot be added to the time, be the sleeper called off from the
start. -/
theorem sleep_overflows :
    Nap.sleep .thirtyYears ⟨18446744073709551615999999999⟩ (.ofMillis 50) (fun _ _ => false) 0 =
      .error "overflow when adding duration to instant" := by
  decide

end ResourcePool.Nap
