/-! Alarms. The clock counts whole ticks of a millisecond. An alarm rings at the first
of them at which a wait is over, or before that if it cannot be set so far ahead. The
clock of an alarm has a range, and cannot tell an instant after the last one in it. -/
namespace ResourcePool

/-- An alarm by its limits, as far as it has any. -/
structure Alarm where
  /-- The most ticks it can be set ahead. -/
  furthest : Option Nat := none
  furthest_pos : ∀ ticks ∈ furthest, 0 < ticks := by simp
  /-- The last instant that its clock can tell, in nanoseconds. -/
  last : Option Nat := none
deriving DecidableEq, Repr

namespace Alarm

def nanosPerTick : Nat := 1000000

/-- The alarm of the runtime. What was measured of it: a wait for more than thirty years of 365
days ends after thirty years, and a sleeper goes on with what is left. The seconds of an
instant are a signed number of 64 bits. -/
def thirtyYears : Alarm where
  furthest := some (30 * 365 * 24 * 60 * 60 * 1000)
  last := some (Nat.pow 2 63 * 1000000000 - 1)

/-- Whether the clock can tell an instant. -/
def tells (a : Alarm) (instant : Nat) : Bool := a.last.all (instant ≤ ·)

/-- As many of some ticks as the alarm can be set ahead. -/
def reach (a : Alarm) (ticks : Nat) : Nat := a.furthest.elim ticks (min ticks)

/-- The ticks until the alarm rings that is set for a wait in nanoseconds. -/
def ticks (a : Alarm) (nanos : Nat) : Nat :=
  a.reach ((nanos + (nanosPerTick - 1)) / nanosPerTick)

theorem nanosPerTick_pos : 0 < nanosPerTick := by decide

theorem reach_pos {a : Alarm} {n : Nat} (positive : 0 < n) : 0 < a.reach n := by
  unfold reach
  cases limit : a.furthest with
  | none => exact positive
  | some furthest => exact Nat.lt_min.mpr ⟨positive, a.furthest_pos furthest limit⟩

theorem ticks_pos {a : Alarm} {nanos : Nat} (positive : 0 < nanos) : 0 < a.ticks nanos := by
  have tick := nanosPerTick_pos
  exact reach_pos (Nat.div_pos (by omega) tick)

end Alarm
end ResourcePool
