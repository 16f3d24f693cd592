import ResourcePool.Decimal.Rounding

/-! Whole numbers as doubles print them: rounded to 53 significant bits, then
with the fewest significant digits that still name the same double, the rest
filled with zeros. -/
namespace ResourcePool.Decimal

/-- Power of two between neighbouring doubles around a number, from `2 ^ 53` up. -/
def spacingPower (n : Nat) : Nat := Nat.log2 n - 52

/-- The double nearest to a whole number. -/
def nearestDouble (n : Nat) : Nat :=
  if n < 1 <<< 53 then n
  else roundHalfEven n (1 <<< spacingPower n) <<< spacingPower n

/-- Whether a whole number rounds to the double `v`, which has at least 54 bits.
Distances are taken four times over: the spacing below a power of two is half
of that above it. -/
def namesDouble (v candidate : Nat) : Bool :=
  let power := spacingPower v
  let above := 1 <<< (power + 1)
  let below := if v = 1 <<< Nat.log2 v then 1 <<< power else 1 <<< (power + 1)
  let even := v >>> power % 2 = 0
  if v ≤ candidate then
    4 * (candidate - v) < above || (even && 4 * (candidate - v) = above)
  else 4 * (v - candidate) < below || (even && 4 * (v - candidate) = below)

/-- The multiple of `10 ^ place` nearest to `v`, if one of its two neighbours on
that grid names `v`. -/
def onGrid? (v place : Nat) : Option Nat :=
  let grid := Nat.pow 10 place
  let low := v / grid * grid
  let high := low + grid
  match namesDouble v low, namesDouble v high with
  | true, true => some (if v - low ≤ high - v then low else high)
  | true, false => some low
  | false, true => some high
  | false, false => none

/-- The first hit from the coarsest grid down to whole numbers. -/
def coarsest (v : Nat) : Nat → Nat
  | 0 => v
  | place + 1 => (onGrid? v (place + 1)).getD (coarsest v place)

/-- Text of the double nearest to a whole number, without an exponent. -/
def shortestWhole (n : Nat) : String :=
  let v := nearestDouble n
  if v < 1 <<< 53 then toString v
  else toString (coarsest v (toString v).length)

/-- Text of the double nearest to a 64-bit word read as a signed number. -/
def shortestSigned (word : Nat) : String :=
  if word < 1 <<< 63 then shortestWhole word
  else "-" ++ shortestWhole (1 <<< 64 - word)

theorem shortestWhole_of_lt {n : Nat} (small : n < Nat.pow 2 53) :
    shortestWhole n = toString n := by
  have near : nearestDouble n = n := if_pos small
  rw [shortestWhole, near]
  exact if_pos small

theorem shortestSigned_of_lt {n : Nat} (small : n < Nat.pow 2 53) :
    shortestSigned n = toString n := by
  have positive : n < 1 <<< 63 := Nat.lt_trans small (by decide)
  rw [shortestSigned, if_pos positive, shortestWhole_of_lt small]

end ResourcePool.Decimal
