import ResourcePool.Text.Combining
import ResourcePool.Text.Unprintable

/-! Which characters can be shown by themselves. -/
namespace ResourcePool.Text

def inRanges (ranges : List (Nat × Nat)) (n : Nat) : Bool :=
  ranges.any fun (first, last) => first ≤ n && n ≤ last

/-- A character with a shape that does not extend the one before it. -/
def standsAlone (c : Char) : Bool :=
  let n := c.toNat
  if n < 0x7f then 0x20 ≤ n
  else !inRanges unprintableRanges n && !inRanges combiningRanges n

end ResourcePool.Text
