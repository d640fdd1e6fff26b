import SocketWatch.Ipv4
import SocketWatch.Proofs.Text.Numeral
/-!
# Addresses in dotted form

An address has one text, and that text alone is read as the address (`parse?_eq_some_iff`). A number of
an address is written as numbers below 256 are: it has at most three digits and no zero in front, so
neither of the two guards refuses what is written or lets anything else pass (`octet?_eq_some_iff`).
No digit is a dot, so a text falls into the four numbers in one way only.
-/

namespace SocketWatch

namespace Text

variable {α : Type}

theorem splitFrom_eq (isSeparator : α → Bool) (part cs : List α) :
    splitFrom isSeparator part cs = cs.splitOnPPrepend isSeparator part := by
  induction cs generalizing part with
  | nil => rfl
  | cons c cs ih =>
    rw [splitFrom, List.splitOnPPrepend_cons_eq_if, ih, ih]
    rfl

theorem split_eq_splitOn [DecidableEq α] (c : α) (cs : List α) :
    split (· = c) cs = cs.splitOn c := by
  rw [split, splitFrom_eq, List.splitOnPPrepend_nil_right, List.splitOn_eq_splitOnP]
  rfl

end Text

namespace Ipv4

/-! ### One number -/

/-- **A number of an address is read exactly if it is written without zeros in front.** -/
theorem octet?_eq_some_iff {cs : List Char} {n : Nat} :
    octet? cs = some n ↔ n < 256 ∧ cs = Nat.toDigits 10 n := by
  constructor
  · intro h
    rw [octet?] at h
    split at h
    · rename_i hguard
      obtain ⟨hread, hlt⟩ := Option.filter_eq_some_iff.1 h
      obtain ⟨zeros, rfl⟩ := Numeral.digits?_eq_some_iff_toDigits.1 hread
      refine ⟨of_decide_eq_true hlt, ?_⟩
      cases zeros with
      | zero => rfl
      | succ zeros =>
        -- a zero in front of a number that is not empty
        simp [List.replicate_succ] at hguard
    · cases h
  · rintro ⟨hlt, rfl⟩
    have hlength : (Nat.toDigits 10 n).length ≤ 3 :=
      (Nat.length_toDigits_le_iff (by decide) (by decide)).2 (by omega)
    have hhead : (Nat.toDigits 10 n).length ≤ 1 ∨ (Nat.toDigits 10 n).head? ≠ some '0' := by
      cases hdigits : Nat.toDigits 10 n with
      | nil => exact .inl (Nat.zero_le _)
      | cons c cs =>
        rcases eq_or_ne cs [] with rfl | hne
        · exact .inl (Nat.le_refl _)
        · refine .inr fun hzero ↦ Numeral.toDigits_ne_zero_cons hne (n := n) ?_
          rw [hdigits, Option.some.inj hzero]
    rw [octet?, if_pos (by simp [hlength, hhead]), Numeral.digits?_toDigits, Option.filter_some,
      if_pos (decide_eq_true hlt)]

/-! ### Four numbers -/

theorem octets_ofOctets {a b c d : Nat} (ha : a < 256) (hb : b < 256) (hc : c < 256)
    (hd : d < 256) : (ofOctets a b c d).octets = [a, b, c, d] := by
  have hword : (UInt32.ofNat (((a * 256 + b) * 256 + c) * 256 + d)).toNat =
      ((a * 256 + b) * 256 + c) * 256 + d := UInt32.toNat_ofNat_of_lt (by show _ < 4294967296; omega)
  simp only [octets, ofOctets, hword]
  refine List.cons_eq_cons.2 ⟨by omega, List.cons_eq_cons.2 ⟨by omega, List.cons_eq_cons.2
    ⟨by omega, List.cons_eq_cons.2 ⟨by omega, rfl⟩⟩⟩⟩

theorem toList_text (ip : Ipv4) :
    ip.text.toList = ['.'].intercalate (ip.octets.map (Nat.toDigits 10)) := by
  rw [text, String.toList_intercalate, List.map_map]
  refine congrArg _ (List.map_congr_left fun n _ ↦ ?_)
  exact String.toList_ofList

theorem split_text (ip : Ipv4) :
    Text.split (· = '.') ip.text.toList = ip.octets.map (Nat.toDigits 10) := by
  rw [Text.split_eq_splitOn, toList_text]
  refine List.splitOn_intercalate '.' (fun part hpart hdot ↦ ?_) (by simp [octets])
  obtain ⟨n, -, rfl⟩ := List.mem_map.1 hpart
  cases Numeral.isDigit_of_mem_toDigits hdot

theorem parse?_text (ip : Ipv4) : parse? ip.text = some ip := by
  have hlt := ip.word.toNat_lt
  have hread : ∀ n < 256, octet? (Nat.toDigits 10 n) = some n := fun n hn ↦
    octet?_eq_some_iff.2 ⟨hn, rfl⟩
  rw [parse?, split_text]
  simp only [octets, List.map_cons, List.map_nil]
  rw [hread _ (by omega), hread _ (by omega), hread _ (by omega), hread _ (by omega)]
  have hword : ((ip.word.toNat / 0x1000000 * 256 + ip.word.toNat / 0x10000 % 256) * 256 +
      ip.word.toNat / 0x100 % 256) * 256 + ip.word.toNat % 256 = ip.word.toNat := by omega
  show some (ofOctets _ _ _ _) = _
  rw [ofOctets, hword, UInt32.ofNat_toNat]

/-- **Only the text of an address is read as the address.** -/
theorem parse?_eq_some_iff {s : String} {ip : Ipv4} : parse? s = some ip ↔ s = ip.text := by
  refine ⟨fun h ↦ ?_, fun h ↦ h ▸ parse?_text ip⟩
  rw [parse?] at h
  split at h
  · rename_i a b c d hsplit
    obtain ⟨na, ha, h⟩ := Option.bind_eq_some_iff.1 h
    obtain ⟨nb, hb, h⟩ := Option.bind_eq_some_iff.1 h
    obtain ⟨nc, hc, h⟩ := Option.bind_eq_some_iff.1 h
    obtain ⟨nd, hd, h⟩ := Option.bind_eq_some_iff.1 h
    cases h
    obtain ⟨hna, rfl⟩ := octet?_eq_some_iff.1 ha
    obtain ⟨hnb, rfl⟩ := octet?_eq_some_iff.1 hb
    obtain ⟨hnc, rfl⟩ := octet?_eq_some_iff.1 hc
    obtain ⟨hnd, rfl⟩ := octet?_eq_some_iff.1 hd
    rw [Text.split_eq_splitOn] at hsplit
    rw [String.ext_iff, toList_text, octets_ofOctets hna hnb hnc hnd]
    exact (List.intercalate_splitOn '.').symm.trans (congrArg _ hsplit)
  · cases h

end Ipv4

end SocketWatch
