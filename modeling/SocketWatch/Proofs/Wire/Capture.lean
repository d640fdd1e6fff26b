import Mathlib.Data.List.Infix
import SocketWatch.Wire.Bytes
/-!
# What a cut leaves

A capture is the beginning of what was sent, and what was sent is often one item after another:
header lines, fields with their lengths. A cut leaves the items that fit (`captured`) and then a
part that is no item, either because it is a proper beginning of the next one or because it belongs
to what follows the items (`exists_take_flatMap`). What a reader makes of a cut list is thereby a
question of what it makes of that part.
-/

namespace SocketWatch.Wire

variable {α : Type} (write : α → List UInt8)

/-- The items that are written whole in so many bytes. -/
def captured : Nat → List α → List α
  | _, [] => []
  | size, x :: xs =>
    if (write x).length ≤ size then x :: captured (size - (write x).length) xs else []

theorem prefix_captured (size : Nat) (xs : List α) : captured write size xs <+: xs := by
  induction xs generalizing size with
  | nil => exact List.prefix_refl []
  | cons x xs ih =>
    rw [captured]
    split
    · exact List.cons_prefix_cons.2 ⟨rfl, ih _⟩
    · exact List.nil_prefix

/-- A cut behind the items leaves all of them. -/
theorem captured_eq_self {size : Nat} {xs : List α} (h : (xs.flatMap write).length ≤ size) :
    captured write size xs = xs := by
  induction xs generalizing size with
  | nil => rfl
  | cons x xs ih =>
    rw [List.flatMap_cons, List.length_append] at h
    rw [captured, if_pos (by omega), ih (by omega)]

/-- **What a cut leaves** are the items that fit and a part: of what follows the items if all of
them fit, and else a proper beginning of the first one that does not. -/
theorem exists_take_flatMap (size : Nat) (xs : List α) (rest : List UInt8) :
    ∃ part, (xs.flatMap write ++ rest).take size =
        (captured write size xs).flatMap write ++ part ∧
      ((captured write size xs = xs ∧ part <+: rest) ∨
        ∃ x ∈ xs, part <+: write x ∧ part.length < (write x).length) := by
  induction xs generalizing size with
  | nil => exact ⟨rest.take size, rfl, .inl ⟨rfl, List.take_prefix size rest⟩⟩
  | cons x xs ih =>
    rw [captured, List.flatMap_cons, List.append_assoc]
    split
    · rename_i hfits
      obtain ⟨part, htake, hpart⟩ := ih (size - (write x).length)
      refine ⟨part, ?_, ?_⟩
      · rw [List.take_append, List.take_of_length_le hfits, htake, List.flatMap_cons,
          List.append_assoc]
      · rcases hpart with ⟨hall, hpart⟩ | ⟨y, hy, hpart⟩
        · exact .inl ⟨by rw [hall], hpart⟩
        · exact .inr ⟨y, List.mem_cons_of_mem x hy, hpart⟩
    · rename_i hcut
      have hlt : size < (write x).length := Nat.not_le.1 hcut
      refine ⟨(write x).take size, ?_, .inr ⟨x, List.mem_cons_self, List.take_prefix _ _, ?_⟩⟩
      · rw [List.take_append_of_le_length hlt.le]
        rfl
      · rwa [List.length_take, Nat.min_eq_left hlt.le]

end SocketWatch.Wire
