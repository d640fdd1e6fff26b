import Mathlib.Data.List.Induction
import SocketWatch.Proofs.Traverse
import SocketWatch.Text.Numeral
/-!
# Reading numbers in decimal

A run of digits is a number as it is written, with zeros in front (`digits?_eq_some_iff_toDigits`), and
an unsigned numeral may have a plus sign in front of that (`nat?_eq_some_iff`): that is all that is
read. So a number that is written in decimal, where the first character is no sign, is read back by
each of the readers, as long as it fits the word that is asked for (`int64?_toDigits`).
-/

namespace SocketWatch.Numeral

variable {c : Char} {cs : List Char} {n : Nat}

theorem digit?_of_isDigit (h : c.isDigit = true) : digit? 10 c = some (c.toNat - 48) := by
  have hrange : 48 ≤ c.toNat ∧ c.toNat ≤ 57 := Char.isDigit_iff_toNat.1 h
  have hvalue : c.toNat - 48 < 10 := by omega
  simp only [digit?, hrange, decide_true, Bool.and_self, if_true, if_pos hvalue]

theorem isDigit_of_mem_toDigits (h : c ∈ Nat.toDigits 10 n) : c.isDigit = true :=
  Nat.isDigit_of_mem_toDigits (by decide) (by decide) h

theorem digit?_eq_none (h : c.isDigit = false) : digit? 10 c = none := by
  have hrange : ¬(48 ≤ c.toNat ∧ c.toNat ≤ 57) := fun hc ↦ by
    rw [Char.isDigit_iff_toNat.2 hc] at h
    cases h
  simp only [digit?, Bool.and_eq_true, decide_eq_true_eq, if_neg hrange]
  refine if_neg ?_
  split
  · omega
  · split <;> omega

theorem ofDigits_eq_ofDigitChars (cs : List Char) :
    ofDigits 10 (cs.map fun c ↦ c.toNat - 48) = Nat.ofDigitChars 10 cs 0 := by
  rw [ofDigits, List.foldl_map]
  simp only [Nat.ofDigitChars, Nat.mul_comm 10]
  rfl

/-- A run of digits is read as the number that it denotes. -/
theorem digits?_eq_some_iff :
    digits? 10 cs = some n ↔
      cs ≠ [] ∧ (∀ c ∈ cs, c.isDigit = true) ∧ Nat.ofDigitChars 10 cs 0 = n := by
  rw [digits?]
  split
  · rename_i hnil
    simp [List.isEmpty_iff.1 hnil]
  · rename_i hne
    by_cases hdigits : ∀ d ∈ cs, d.isDigit = true
    · have hread := mapM_eq_some_map fun d hd ↦ digit?_of_isDigit (hdigits d hd)
      rw [hread, Option.map_some, ofDigits_eq_ofDigitChars, Option.some_inj]
      exact ⟨fun h ↦ ⟨by simpa using hne, hdigits, h⟩, fun h ↦ h.2.2⟩
    · have hnone : cs.mapM (digit? 10) = none := by
        by_contra hsome
        refine hdigits fun d hd ↦ by_contra fun hd' ↦ ?_
        exact mapM_ne_none_iff.1 hsome d hd (digit?_eq_none (by simpa using hd'))
      rw [hnone]
      exact ⟨fun h ↦ by simp at h, fun h ↦ absurd h.2.1 hdigits⟩

theorem toDigits_of_isDigit (h : c.isDigit = true) : Nat.toDigits 10 (c.toNat - 48) = [c] := by
  have hrange : 48 ≤ c.toNat ∧ c.toNat ≤ 57 := Char.isDigit_iff_toNat.1 h
  rw [Nat.toDigits_of_lt_base (by omega)]
  refine congrArg (fun d ↦ [d]) (Char.toNat_inj.1 ?_)
  rw [Nat.toNat_digitChar_of_lt_ten (by omega)]
  omega

/-- A run of digits is a number as it is written, with zeros in front. -/
theorem exists_eq_replicate_append (hne : cs ≠ []) (hdigits : ∀ c ∈ cs, c.isDigit = true) :
    ∃ zeros, cs = List.replicate zeros '0' ++ Nat.toDigits 10 (Nat.ofDigitChars 10 cs 0) := by
  induction cs using List.reverseRecOn with
  | nil => exact absurd rfl hne
  | append_singleton cs c ih =>
    have hc : c.isDigit = true := hdigits c (by simp)
    have hrange : 48 ≤ c.toNat ∧ c.toNat ≤ 57 := Char.isDigit_iff_toNat.1 hc
    have hvalue : Nat.ofDigitChars 10 (cs ++ [c]) 0 =
        10 * Nat.ofDigitChars 10 cs 0 + (c.toNat - 48) := by
      rw [Nat.ofDigitChars_append, Nat.ofDigitChars_cons, Nat.ofDigitChars_nil]
      rfl
    rw [hvalue]
    rcases Nat.eq_zero_or_pos (Nat.ofDigitChars 10 cs 0) with hzero | hpos
    · -- what stands in front of the last digit are zeros
      have hzeros : ∃ zeros, cs = List.replicate zeros '0' := by
        rcases eq_or_ne cs [] with rfl | hcs
        · exact ⟨0, rfl⟩
        · obtain ⟨zeros, hzeros⟩ := ih hcs fun d hd ↦ hdigits d (by simp [hd])
          rw [hzero] at hzeros
          exact ⟨zeros + 1, by rw [hzeros, List.replicate_succ']; rfl⟩
      obtain ⟨zeros, rfl⟩ := hzeros
      exact ⟨zeros, by rw [hzero, Nat.mul_zero, Nat.zero_add, toDigits_of_isDigit hc]⟩
    · obtain ⟨zeros, hzeros⟩ := ih (fun hnil ↦ by simp [hnil] at hpos)
        fun d hd ↦ hdigits d (by simp [hd])
      refine ⟨zeros, ?_⟩
      rw [← Nat.toDigits_append_toDigits (by decide) hpos (by omega), toDigits_of_isDigit hc,
        ← List.append_assoc, ← hzeros]

/-- **Digits are read as a number exactly if they are the number as it is written**, zeros in front of
it apart. -/
theorem digits?_eq_some_iff_toDigits :
    digits? 10 cs = some n ↔ ∃ zeros, cs = List.replicate zeros '0' ++ Nat.toDigits 10 n := by
  rw [digits?_eq_some_iff]
  constructor
  · rintro ⟨hne, hdigits, rfl⟩
    exact exists_eq_replicate_append hne hdigits
  · rintro ⟨zeros, rfl⟩
    refine ⟨by simp, fun c hc ↦ ?_, ?_⟩
    · rcases List.mem_append.1 hc with hc | hc
      · rw [List.eq_of_mem_replicate hc]
        rfl
      · exact isDigit_of_mem_toDigits hc
    · rw [Nat.ofDigitChars_append, Nat.ofDigitChars_replicate_zero, Nat.mul_zero,
        Nat.ofDigitChars_ten_toDigits]

/-- **A number is read back from its digits.** -/
theorem digits?_toDigits (n : Nat) : digits? 10 (Nat.toDigits 10 n) = some n :=
  digits?_eq_some_iff_toDigits.2 ⟨0, rfl⟩

/-- What is no digit does not stand in front of a number. -/
theorem toDigits_ne_cons (hc : c.isDigit = false) (cs : List Char) : Nat.toDigits 10 n ≠ c :: cs := by
  intro hdigits
  have hdigit : c.isDigit = true := isDigit_of_mem_toDigits (n := n) (hdigits ▸ List.mem_cons_self)
  rw [hc] at hdigit
  cases hdigit

/-- Of more than one digit the first is no zero. -/
theorem toDigits_ne_zero_cons (hne : cs ≠ []) : Nat.toDigits 10 n ≠ '0' :: cs := by
  intro hdigits
  have hread : digits? 10 ('0' :: cs) = some n := hdigits ▸ digits?_toDigits n
  obtain ⟨-, hcs, hvalue⟩ := digits?_eq_some_iff.1 hread
  rw [Nat.ofDigitChars_cons] at hvalue
  have hread' : digits? 10 cs = some n :=
    digits?_eq_some_iff.2 ⟨hne, fun c hc ↦ hcs c (List.mem_cons_of_mem _ hc), hvalue⟩
  obtain ⟨zeros, hzeros⟩ := digits?_eq_some_iff_toDigits.1 hread'
  have hlength := congrArg List.length hzeros
  rw [hdigits, List.length_append, List.length_cons] at hlength
  omega

/-- A number in decimal, perhaps with a plus sign and zeros in front of it. -/
def IsDecimal (n : Nat) (cs : List Char) : Prop :=
  ∃ sign zeros, (sign = [] ∨ sign = ['+']) ∧
    cs = sign ++ (List.replicate zeros '0' ++ Nat.toDigits 10 n)

/-- **An unsigned numeral is read exactly if it is a number in decimal.** -/
theorem nat?_eq_some_iff : nat? 10 cs = some n ↔ IsDecimal n cs := by
  constructor
  · intro h
    unfold nat? at h
    split at h
    · obtain ⟨zeros, rfl⟩ := digits?_eq_some_iff_toDigits.1 h
      exact ⟨['+'], zeros, .inr rfl, rfl⟩
    · obtain ⟨zeros, rfl⟩ := digits?_eq_some_iff_toDigits.1 h
      exact ⟨[], zeros, .inl rfl, rfl⟩
  · rintro ⟨sign, zeros, rfl | rfl, rfl⟩
    · have hread : digits? 10 (List.replicate zeros '0' ++ Nat.toDigits 10 n) = some n :=
        digits?_eq_some_iff_toDigits.2 ⟨zeros, rfl⟩
      rw [List.nil_append, nat?, hread]
      intro rest hplus
      have hdigit := (digits?_eq_some_iff.1 hread).2.1 '+' (hplus ▸ List.mem_cons_self)
      cases hdigit
    · exact digits?_eq_some_iff_toDigits.2 ⟨zeros, rfl⟩

theorem nat?_toDigits (n : Nat) : nat? 10 (Nat.toDigits 10 n) = some n :=
  nat?_eq_some_iff.2 ⟨[], 0, .inl rfl, rfl⟩

theorem int?_toDigits (n : Nat) : int? 10 (Nat.toDigits 10 n) = some (n : Int) := by
  rw [int?, nat?_toDigits]
  · rfl
  · exact toDigits_ne_cons rfl

/-- A number that has 63 bits is read back with a sign. -/
theorem int64?_toDigits (h : n < Word.count 63) :
    int64? 10 (Nat.toDigits 10 n) = some (n : Int) := by
  have hfits : Word.fitsSigned 64 n = true := Word.fitsSigned_iff.2 ⟨by omega, by omega⟩
  rw [int64?, int?_toDigits, Option.filter_some, if_pos hfits]

end SocketWatch.Numeral
