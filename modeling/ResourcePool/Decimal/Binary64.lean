import ResourcePool.Decimal.Digits
import ResourcePool.Decimal.Rounding

/-! Exact values of doubles, and their text with a fixed number of places. -/
namespace ResourcePool.Decimal

inductive Binary64 where
  | nan
  | infinite (negative : Bool)
  /-- The number `significand * 2 ^ power / 2 ^ 1074`. -/
  | finite (negative : Bool) (significand power : Nat)
deriving DecidableEq, Repr

namespace Binary64

def ofBits (bits : Nat) : Binary64 :=
  let negative := bits >>> 63 % 2 = 1
  let exponent := bits >>> 52 % 1 <<< 11
  let fraction := bits % 1 <<< 52
  if exponent = 2047 then
    if fraction = 0 then .infinite negative else .nan
  else if exponent = 0 then .finite negative fraction 0
  else .finite negative (1 <<< 52 + fraction) (exponent - 1)

def sign (negative : Bool) : String := if negative then "-" else ""

/-- Digits of a number of units of `10 ^ -places`. -/
def point (places units : Nat) : String :=
  let scale := Nat.pow 10 places
  let whole := toString (units / scale)
  if places = 0 then whole
  else whole ++ "." ++ String.ofList (padded places (units % scale))

/-- The nearest decimal with a number of places, a half to the even neighbour.
The sign of a negative number is kept, also of one that rounds to zero. -/
def fixed (places : Nat) : Binary64 → String
  | .nan => "NaN"
  | .infinite negative => sign negative ++ "inf"
  | .finite negative significand power =>
      sign negative ++
        point places (roundHalfEven (significand <<< power * Nat.pow 10 places) (1 <<< 1074))

end Binary64
end ResourcePool.Decimal
