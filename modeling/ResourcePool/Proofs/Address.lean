import Mathlib.Data.Finset.Card
import Mathlib.Data.List.Sort
import ResourcePool.Address.Basic

/-! The canonical form of a set of addresses. Lists with the same addresses, in whatever order and
however often, have the same canonical form. -/
namespace ResourcePool.Address

/-- Each address once, in the common order. -/
def Ordered (addresses : List Address) : Prop := addresses.Pairwise fun a b => a.rank < b.rank

variable {a b : Address} {addresses others : List Address}

theorem mem_place : b ∈ place a addresses ↔ b = a ∨ b ∈ addresses := by
  induction addresses with
  | nil => simp [place]
  | cons other rest ih =>
      unfold place
      split
      · rename_i same
        simp [same]
      · split
        · simp
        · simp only [List.mem_cons, ih]
          tauto

theorem ordered_place (ordered : Ordered addresses) (a : Address) :
    Ordered (place a addresses) := by
  induction addresses with
  | nil => exact List.pairwise_singleton ..
  | cons other rest ih =>
      obtain ⟨above, ordered'⟩ := List.pairwise_cons.mp ordered
      unfold place
      split
      · exact ordered
      · rename_i different
        split
        · rename_i below
          refine List.pairwise_cons.mpr ⟨fun b member => ?_, ordered⟩
          obtain rfl | later := List.mem_cons.mp member
          · exact below
          · exact Nat.lt_trans below (above b later)
        · rename_i high
          have rank : other.rank ≠ a.rank := fun same => different (rank_injective same.symm)
          refine List.pairwise_cons.mpr ⟨fun b member => ?_, ih ordered'⟩
          obtain rfl | later := mem_place.mp member
          · exact Nat.lt_of_le_of_ne (Nat.le_of_not_lt high) rank
          · exact above b later

theorem mem_canonical : a ∈ canonical addresses ↔ a ∈ addresses := by
  induction addresses with
  | nil => rfl
  | cons other rest ih =>
      have placed : canonical (other :: rest) = place other (canonical rest) := rfl
      rw [placed, mem_place, ih, List.mem_cons]

theorem ordered_canonical (addresses : List Address) : Ordered (canonical addresses) := by
  induction addresses with
  | nil => exact List.Pairwise.nil
  | cons other rest ih => exact ordered_place ih other

/-- An ordered list is determined by its set. -/
theorem Ordered.eq_of_toFinset (ordered : Ordered addresses) (ordered' : Ordered others)
    (same : addresses.toFinset = others.toFinset) : addresses = others := by
  have : Std.Irrefl fun a b : Address => a.rank < b.rank := ⟨fun a => Nat.lt_irrefl a.rank⟩
  have : Std.Antisymm fun a b : Address => a.rank < b.rank :=
    ⟨fun _ _ low high => absurd high (Nat.lt_asymm low)⟩
  refine List.Pairwise.eq_of_mem_iff ordered ordered' fun a => ?_
  rw [← List.mem_toFinset, same, List.mem_toFinset]

theorem toFinset_canonical (addresses : List Address) :
    (canonical addresses).toFinset = addresses.toFinset := by
  ext a
  rw [List.mem_toFinset, List.mem_toFinset, mem_canonical]

theorem canonical_congr (same : addresses.toFinset = others.toFinset) :
    canonical addresses = canonical others :=
  (ordered_canonical addresses).eq_of_toFinset (ordered_canonical others)
    (by rw [toFinset_canonical, toFinset_canonical, same])

theorem Ordered.length (ordered : Ordered addresses) :
    addresses.length = addresses.toFinset.card := by
  refine (List.toFinset_card_of_nodup (ordered.imp fun below same => ?_)).symm
  rw [same] at below
  exact Nat.lt_irrefl _ below

theorem length_canonical (addresses : List Address) :
    (canonical addresses).length = addresses.toFinset.card := by
  rw [(ordered_canonical addresses).length, toFinset_canonical]

end ResourcePool.Address
