/-!
# Words

Probes, the wire and settings hold numbers in words of a fixed number of bits. Which numbers fit,
and what a word means when its first bit is a sign, is said here once for all widths.

The number of words is written as a shift, whose meaning does not hang on which power functions
are in scope; `count_succ` is how to compute with it.
-/

namespace SocketWatch.Word

/-- How many words of so many bits there are. -/
def count (bits : Nat) : Nat := 1 <<< bits

/-- Whether a number fits a word of so many bits. -/
def fits (bits : Nat) (i : Int) : Bool := 0 ≤ i && i < count bits

/-- Whether a number fits a word of so many bits, of which one is the sign. -/
def fitsSigned (bits : Nat) (i : Int) : Bool :=
  -(count (bits - 1) : Int) ≤ i && i < count (bits - 1)

/-- A word of so many bits, read with a sign. -/
def signed (bits n : Nat) : Int := Int.bmod n (count bits)

@[simp] theorem count_zero : count 0 = 1 := rfl

theorem count_succ (bits : Nat) : count (bits + 1) = 2 * count bits := by
  simp only [count, Nat.shiftLeft_succ]

theorem count_pos (bits : Nat) : 0 < count bits := by
  induction bits with
  | zero => exact Nat.one_pos
  | succ n ih => rw [count_succ]; exact Nat.mul_pos (by decide) ih

theorem fits_iff {bits : Nat} {i : Int} : fits bits i = true ↔ 0 ≤ i ∧ i < count bits := by
  rw [fits, Bool.and_eq_true, decide_eq_true_eq, decide_eq_true_eq]

theorem fitsSigned_iff {bits : Nat} {i : Int} :
    fitsSigned (bits + 1) i = true ↔ -(count bits : Int) ≤ i ∧ i < count bits := by
  rw [fitsSigned, Bool.and_eq_true, decide_eq_true_eq, decide_eq_true_eq]
  rfl

theorem fitsSigned_int32 (v : Int32) : fitsSigned 32 v.toInt = true :=
  fitsSigned_iff.2 ⟨v.le_toInt, v.toInt_lt⟩

theorem fitsSigned_int64 (v : Int64) : fitsSigned 64 v.toInt = true :=
  fitsSigned_iff.2 ⟨v.le_toInt, v.toInt_lt⟩

/-- Below the sign bit, reading with a sign changes nothing. -/
theorem signed_of_lt {bits n : Nat} (h : n < count bits) : signed (bits + 1) n = n := by
  have hcount := count_succ bits
  unfold signed
  rw [Int.bmod_eq_of_le] <;> omega

end SocketWatch.Word
