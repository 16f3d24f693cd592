import ResourcePool.Text.Hex

/-! Network addresses of both families and their usual text. All addresses of
the four-octet family come before those of the sixteen-octet family; within a
family they are ordered by their octets. -/
namespace ResourcePool

inductive Address where
  | v4 (bits : BitVec 32)
  | v6 (bits : BitVec 128)
deriving DecidableEq, Repr

namespace Address

/-- Position of an address in the common order. -/
def rank : Address → Nat
  | v4 bits => bits.toNat
  | v6 bits => 1 <<< 32 + bits.toNat

theorem rank_injective {a b : Address} (same : a.rank = b.rank) : a = b := by
  cases a <;> cases b <;> simp only [rank] at same
  · exact congrArg v4 (BitVec.eq_of_toNat_eq same)
  · rename_i x y; have := x.isLt; omega
  · rename_i x y; have := y.isLt; omega
  · exact congrArg v6 (BitVec.eq_of_toNat_eq (by omega))

/-- The number with given digits in base `2 ^ width`. -/
def join (width : Nat) (parts : List Nat) : Nat :=
  parts.foldl (fun n part => n <<< width + part) 0

/-- The lowest `count` digits of a number in base `2 ^ width`, highest first. -/
def split (width : Nat) : Nat → Nat → List Nat
  | 0, _ => []
  | count + 1, n => split width count (n >>> width) ++ [n % 1 <<< width]

/-- Four octets make an address of the first family, any other number of
octets one of the second. -/
def ofOctets (octets : List Nat) : Address :=
  if octets.length = 4 then v4 (BitVec.ofNat 32 (join 8 octets))
  else v6 (BitVec.ofNat 128 (join 8 octets))

def octets : Address → List Nat
  | v4 bits => split 8 4 bits.toNat
  | v6 bits => split 8 16 bits.toNat

def renderFour (bits : Nat) : String :=
  ".".intercalate ((split 8 4 bits).map toString)

/-- Start and length of the longest run of zeros, the first of several. -/
def longestZeroRun : List Nat → Nat → Nat × Nat → Nat × Nat → Nat × Nat
  | [], _, _, best => best
  | part :: rest, at_, current, best =>
      if part = 0 then
        let current := if current.2 = 0 then (at_, 1) else (current.1, current.2 + 1)
        longestZeroRun rest (at_ + 1) current (if best.2 < current.2 then current else best)
      else longestZeroRun rest (at_ + 1) (0, 0) best

def renderGroups (groups : List Nat) : String :=
  ":".intercalate (groups.map Text.hex)

/-- Groups of four hexadecimal digits; the longest run of at least two zero
groups is left out. An embedded four-octet address is shown as such. -/
def renderSixteen (bits : Nat) : String :=
  if bits >>> 32 = 0xffff then "::ffff:" ++ renderFour bits
  else
    let groups := split 16 8 bits
    let run := longestZeroRun groups 0 (0, 0) (0, 0)
    if 1 < run.2 then
      renderGroups (groups.take run.1) ++ "::" ++ renderGroups (groups.drop (run.1 + run.2))
    else renderGroups groups

def render : Address → String
  | v4 bits => renderFour bits.toNat
  | v6 bits => renderSixteen bits.toNat

/-- Puts an address in its place in an ordered list, unless it is there. -/
def place (address : Address) : List Address → List Address
  | [] => [address]
  | other :: rest =>
      if address = other then other :: rest
      else if address.rank < other.rank then address :: other :: rest
      else other :: place address rest

/-- Each address once, in the common order. -/
def canonical (addresses : List Address) : List Address := addresses.foldr place []

end Address
end ResourcePool
