import ResourcePool.Alarm
import ResourcePool.Duration

/-! Sleeping in slices. A sleeper wakes after every part of its pause to look
whether it should go on; no part is shorter than a tick, and none is longer than
its alarm can be set for. -/
namespace ResourcePool

/-- A pause by its end and the length of its slices, in nanoseconds. -/
structure Nap where
  deadline : Nat
  part : Nat
deriving DecidableEq, Repr

namespace Nap

open Alarm

/-- The pause of some time from now on; whether a clock can tell its end is not asked. -/
def start (time part : Duration) (now : Nat) : Nap where
  deadline := nanosPerTick * now + time.nanos
  part := max part.nanos nanosPerTick

/-- Text of the panic of a pause with an end that the clock cannot tell. -/
def overflow : String := "overflow when adding duration to instant"

/-- Begins a pause; there is none with an end that the clock cannot tell. -/
def begin? (alarm : Alarm) (time part : Duration) (now : Nat) : Option Nap :=
  let nap := start time part now
  if alarm.tells nap.deadline then some nap else none

/-- What is left of the pause, at most one part. -/
def remains (n : Nap) (now : Nat) : Nat := min (n.deadline - nanosPerTick * now) n.part

/-- When a slice that starts now ends; nothing once the pause is over. -/
def wake? (n : Nap) (alarm : Alarm) (now : Nat) : Option Nat :=
  let rest := n.remains now
  if rest = 0 then none else some (now + alarm.ticks rest)

theorem lt_of_wake? {n : Nap} {alarm : Alarm} {now wake : Nat}
    (h : n.wake? alarm now = some wake) : now < wake ∧ nanosPerTick * now < n.deadline := by
  unfold wake? at h
  by_cases ended : n.remains now = 0
  · simp [ended] at h
  · simp only [ended, if_false, Option.some.injEq] at h
    have later := ticks_pos (a := alarm) (Nat.pos_of_ne_zero ended)
    have rest : 0 < n.deadline - nanosPerTick * now := by
      unfold remains at ended
      exact Nat.lt_of_lt_of_le (Nat.pos_of_ne_zero ended) (Nat.min_le_left _ _)
    omega

/-- The times at which the condition is looked at, the last of which ends the
sleep: the condition is told how often it was asked before, and the time. -/
def looks (n : Nap) (alarm : Alarm) (goOn : Nat → Nat → Bool) (asked now : Nat) : List Nat :=
  if goOn asked now then
    match h : n.wake? alarm now with
    | none => [now]
    | some wake => now :: looks n alarm goOn (asked + 1) wake
  else [now]
termination_by n.deadline - nanosPerTick * now
decreasing_by
  obtain ⟨later, open_⟩ := lt_of_wake? h
  have := Nat.mul_lt_mul_of_pos_left later nanosPerTick_pos
  omega

/-- Sleeps, and tells when the condition was looked at. The end of the pause is worked out
before the first look; there is a panic instead if the clock cannot tell it. -/
def sleep (alarm : Alarm) (time part : Duration) (goOn : Nat → Nat → Bool) (now : Nat) :
    Except String (List Nat) :=
  match begin? alarm time part now with
  | none => .error overflow
  | some nap => .ok (nap.looks alarm goOn 0 now)

end Nap
end ResourcePool
