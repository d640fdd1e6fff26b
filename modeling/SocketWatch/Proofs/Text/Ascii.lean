import SocketWatch.Proofs.Text.Utf8
import SocketWatch.Text.Ascii
/-!
# ASCII texts among bytes

A character of an ASCII text is one byte, and a byte below `0x80` is a character by itself. So the
bytes of such a text are read back as the text (`lossy_bytes`), and wherever they are cut off, what
is left is read as a beginning of the text (`toList_lossy_of_prefix`). Of other texts that is not so:
a cut within a character leaves a replacement character behind.
-/

namespace SocketWatch.Ascii

/-- All characters of a text are ASCII. -/
def IsText (s : String) : Prop := ∀ c ∈ s.toList, c.toNat < 0x80

instance (s : String) : Decidable (IsText s) := List.decidableBAll (fun c : Char ↦ c.toNat < 0x80) s.toList

variable {s : String} {part : List UInt8}

@[simp] theorem length_bytes (s : String) : (bytes s).length = s.toList.length := List.length_map _

/-- An ASCII text has the same bytes in UTF-8. -/
theorem bytes_eq (h : IsText s) : bytes s = Utf8.bytes s := by
  rw [bytes, Utf8.bytes, List.map_eq_flatMap]
  refine congrArg List.flatten (List.map_congr_left fun c hc ↦ ?_)
  have hc : c.val.toNat ≤ 127 := Nat.le_of_lt_succ (h c hc)
  rw [String.utf8EncodeChar, if_pos hc]
  rfl

/-- The characters of an ASCII text are those of its bytes. -/
theorem map_ofNat_bytes (h : IsText s) : ((bytes s).map fun b ↦ Char.ofNat b.toNat) = s.toList := by
  rw [bytes, List.map_map]
  refine (List.map_congr_left fun c hc ↦ ?_).trans (List.map_id _)
  have hbyte : c.toNat < 256 := Nat.lt_trans (h c hc) (by decide)
  rw [Function.comp_apply, UInt8.toNat_ofNat_of_lt' hbyte, Char.ofNat_toNat]
  rfl

theorem mem_toList_of_mem_bytes (h : IsText s) {b : UInt8} (hb : b ∈ bytes s) :
    Char.ofNat b.toNat ∈ s.toList :=
  map_ofNat_bytes h ▸ List.mem_map_of_mem hb

/-- **An ASCII text is read back from its bytes.** -/
theorem lossy_bytes (h : IsText s) : Utf8.lossy (bytes s) = s := by
  rw [bytes_eq h, Utf8.lossy_bytes]

/-- A letter is an ASCII letter, as a character and as a byte. -/
theorem isLetter_ofNat {c : Char} (h : c.isAlpha = true) :
    c.toNat < 0x80 ∧ isLetter (UInt8.ofNat c.toNat) = true := by
  have hrange : 0x41 ≤ c.toNat ∧ c.toNat ≤ 0x5A ∨ 0x61 ≤ c.toNat ∧ c.toNat ≤ 0x7A := by
    rcases Bool.or_eq_true_iff.1 h with hcapital | hsmall
    · have hcode : 'A'.val ≤ c.val ∧ c.val ≤ 'Z'.val := of_decide_eq_true hcapital
      exact .inl (hcode.imp UInt32.le_iff_toNat_le.1 UInt32.le_iff_toNat_le.1)
    · have hcode : 'a'.val ≤ c.val ∧ c.val ≤ 'z'.val :=
        (Bool.and_eq_true_iff.1 hsmall).imp of_decide_eq_true of_decide_eq_true
      exact .inr (hcode.imp UInt32.le_iff_toNat_le.1 UInt32.le_iff_toNat_le.1)
  have hbyte : c.toNat < 256 := by omega
  refine ⟨by omega, ?_⟩
  rw [isLetter, Bool.or_eq_true, Bool.and_eq_true, Bool.and_eq_true, decide_eq_true_eq,
    decide_eq_true_eq, decide_eq_true_eq, decide_eq_true_eq, Utf8.le_ofNat hbyte,
    Utf8.le_ofNat hbyte, Utf8.ofNat_le hbyte, Utf8.ofNat_le hbyte]
  exact hrange

theorem bytes_append (s t : String) : bytes (s ++ t) = bytes s ++ bytes t := by
  rw [bytes, bytes, bytes, String.toList_append, List.map_append]

theorem IsText.append {t : String} (hs : IsText s) (ht : IsText t) : IsText (s ++ t) := by
  intro c hc
  rw [String.toList_append, List.mem_append] at hc
  exact hc.elim (hs c) (ht c)

theorem bytes_ofList (cs : List Char) :
    bytes (String.ofList cs) = cs.map fun c ↦ UInt8.ofNat c.toNat := by
  rw [bytes, String.toList_ofList]

/-- **A beginning of the bytes of an ASCII text is a beginning of the text.** -/
theorem toList_lossy_of_prefix (h : IsText s) (hpart : part <+: bytes s) :
    (Utf8.lossy part).toList <+: s.toList := by
  have htake : s.toList.take part.length <+: s.toList := List.take_prefix _ _
  have hshort : IsText (String.ofList (s.toList.take part.length)) := fun c hc ↦ by
    rw [String.toList_ofList] at hc
    exact h c (htake.subset hc)
  have hbytes : part = bytes (String.ofList (s.toList.take part.length)) := by
    rw [bytes_ofList, List.map_take]
    exact List.prefix_iff_eq_take.1 hpart
  rw [hbytes, lossy_bytes hshort, String.toList_ofList]
  exact hbytes ▸ htake

end SocketWatch.Ascii
