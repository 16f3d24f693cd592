import ResourcePool.Decimal.Digits

/-! Lengths of time, exact to the nanosecond. -/
namespace ResourcePool

structure Duration where
  nanos : Nat
deriving DecidableEq, Repr, Inhabited

namespace Duration

def ofMicros (n : Nat) : Duration := ⟨1000 * n⟩

def ofMillis (n : Nat) : Duration := ⟨1000000 * n⟩

def ofSeconds (n : Nat) : Duration := ⟨1000000000 * n⟩

def micros (d : Duration) : Nat := d.nanos / 1000

instance : Add Duration := ⟨fun a b => ⟨a.nanos + b.nanos⟩⟩

/-- A count of nanoseconds in a unit of `10 ^ places` of them. -/
def inUnit (nanos places : Nat) (unit : String) : String :=
  let scale := Nat.pow 10 places
  let fraction := nanos % scale
  let decimals :=
    if fraction = 0 then ""
    else "." ++ String.ofList (Decimal.trimZeros (Decimal.padded places fraction))
  toString (nanos / scale) ++ decimals ++ unit

/-- Text in the largest unit that is not longer than the duration. -/
def render (d : Duration) : String :=
  if 1000000000 ≤ d.nanos then inUnit d.nanos 9 "s"
  else if 1000000 ≤ d.nanos then inUnit d.nanos 6 "ms"
  else if 1000 ≤ d.nanos then inUnit d.nanos 3 "µs"
  else inUnit d.nanos 0 "ns"

end Duration
end ResourcePool
