import SocketWatch.Text.Utf8
/-!
# Reading back what was written as UTF-8

A text is read back from its bytes (`lossy_bytes`), which is what a reader of blocks with a length
in front relies on. The bytes of a character are read as that character whatever follows
(`scan_utf8EncodeChar`), so a text is read back character by character.

A first byte tells how many bytes follow, and which of them may be the second one. Two first bytes
of three and two of four narrow the range of the second: from below, since what is shorter is
written with fewer bytes, and from above, since there is no character among the surrogates and
behind the last code point.
-/

namespace SocketWatch.Utf8

variable {b b₁ b₂ b₃ low high : UInt8} {f : Follow} {n v : Nat}

/-! ### First bytes -/

theorem not_lt_of_follow? (h : follow? b = some f) : ¬ b < 0x80 := by
  intro hlt
  rw [follow?, if_pos (UInt8.lt_trans hlt (by decide))] at h
  cases h

theorem follow?_two (h : 0xC2 ≤ b) (h' : b ≤ 0xDF) : follow? b = some ⟨0x80, 0xBF, 0⟩ := by
  rw [follow?, if_neg (UInt8.not_lt.2 h), if_pos h']

theorem follow?_three (h : 0xE0 ≤ b) (h' : b ≤ 0xEF) :
    follow? b = some ⟨if b = 0xE0 then 0xA0 else 0x80, if b = 0xED then 0x9F else 0xBF, 1⟩ := by
  rw [follow?]
  grind

theorem follow?_four (h : 0xF0 ≤ b) (h' : b ≤ 0xF4) :
    follow? b = some ⟨if b = 0xF0 then 0x90 else 0x80, if b = 0xF4 then 0x8F else 0xBF, 2⟩ := by
  rw [follow?]
  grind

/-! ### Characters of more than one byte -/

theorem scan_two (hfirst : follow? b = some ⟨low, high, 0⟩) (hlow : low ≤ b₁) (hhigh : b₁ ≤ high)
    (rest : List UInt8) :
    scan (b :: b₁ :: rest) = some (Char.ofNat (b.toNat % 32 * 64 + tailBits b₁)) :: scan rest := by
  rw [scan.eq_def]
  simp [not_lt_of_follow? hfirst, hfirst, hlow, hhigh]

theorem scan_three (hfirst : follow? b = some ⟨low, high, 1⟩) (hlow : low ≤ b₁) (hhigh : b₁ ≤ high)
    (htail : isTail b₂) (rest : List UInt8) :
    scan (b :: b₁ :: b₂ :: rest) =
      some (Char.ofNat ((b.toNat % 16 * 64 + tailBits b₁) * 64 + tailBits b₂)) :: scan rest := by
  rw [scan.eq_def]
  simp [not_lt_of_follow? hfirst, hfirst, hlow, hhigh, htail]

theorem scan_four (hfirst : follow? b = some ⟨low, high, 2⟩) (hlow : low ≤ b₁) (hhigh : b₁ ≤ high)
    (htail : isTail b₂) (htail' : isTail b₃) (rest : List UInt8) :
    scan (b :: b₁ :: b₂ :: b₃ :: rest) =
      some (Char.ofNat (((b.toNat % 8 * 64 + tailBits b₁) * 64 + tailBits b₂) * 64 + tailBits b₃))
        :: scan rest := by
  rw [scan.eq_def]
  simp [not_lt_of_follow? hfirst, hfirst, hlow, hhigh, htail, htail']

/-! ### The bytes of a number -/

theorem le_ofNat (hn : n < 256) : b ≤ UInt8.ofNat n ↔ b.toNat ≤ n := by
  rw [UInt8.le_iff_toNat_le, UInt8.toNat_ofNat_of_lt' hn]

theorem ofNat_le (hn : n < 256) : UInt8.ofNat n ≤ b ↔ n ≤ b.toNat := by
  rw [UInt8.le_iff_toNat_le, UInt8.toNat_ofNat_of_lt' hn]

theorem eq_toNat_of_ofNat_eq (hn : n < 256) (h : UInt8.ofNat n = b) : n = b.toNat := by
  rw [← h, UInt8.toNat_ofNat_of_lt' hn]

theorem isTail_ofNat (v : Nat) : isTail (UInt8.ofNat (v % 64 + 128)) := by
  have hlt : v % 64 < 64 := Nat.mod_lt v (by decide)
  have hbyte : v % 64 + 128 < 256 := by omega
  rw [isTail, Bool.and_eq_true_iff, decide_eq_true_iff, decide_eq_true_iff, le_ofNat hbyte,
    ofNat_le hbyte]
  exact ⟨Nat.le_add_left 128 _, Nat.add_le_add_right (Nat.le_of_lt_succ hlt) 128⟩

theorem tailBits_ofNat (v : Nat) : tailBits (UInt8.ofNat (v % 64 + 128)) = v % 64 := by
  rw [tailBits, UInt8.toNat_ofNat']
  omega

theorem scan_ofNat_two (h : 0x80 ≤ v) (h' : v < 0x800) (rest : List UInt8) :
    scan (UInt8.ofNat (v / 64 % 32 + 192) :: UInt8.ofNat (v % 64 + 128) :: rest) =
      some (Char.ofNat v) :: scan rest := by
  have hbyte : v / 64 % 32 + 192 < 256 := by omega
  have hfirst := follow?_two ((le_ofNat hbyte).2 (show 0xC2 ≤ _ by omega))
    ((ofNat_le hbyte).2 (show _ ≤ 0xDF by omega))
  obtain ⟨hlow, hhigh⟩ := Bool.and_eq_true_iff.1 (isTail_ofNat v)
  have hv : (v / 64 % 32 + 192) % 32 * 64 + v % 64 = v := by omega
  rw [scan_two hfirst (of_decide_eq_true hlow) (of_decide_eq_true hhigh),
    UInt8.toNat_ofNat_of_lt' hbyte, tailBits_ofNat, hv]

theorem scan_ofNat_three (h : 0x800 ≤ v) (h' : v < 0x10000) (hchar : v < 0xD800 ∨ 0xDFFF < v)
    (rest : List UInt8) :
    scan (UInt8.ofNat (v / 4096 % 16 + 224) :: UInt8.ofNat (v / 64 % 64 + 128) ::
      UInt8.ofNat (v % 64 + 128) :: rest) = some (Char.ofNat v) :: scan rest := by
  have hbyte : v / 4096 % 16 + 224 < 256 := by omega
  have hsecond : v / 64 % 64 + 128 < 256 := by omega
  have hfirst := follow?_three ((le_ofNat hbyte).2 (show 0xE0 ≤ _ by omega))
    ((ofNat_le hbyte).2 (show _ ≤ 0xEF by omega))
  have hv : ((v / 4096 % 16 + 224) % 16 * 64 + v / 64 % 64) * 64 + v % 64 = v := by omega
  rw [scan_three hfirst ?low ?high (isTail_ofNat v), UInt8.toNat_ofNat_of_lt' hbyte,
    tailBits_ofNat, tailBits_ofNat, hv]
  case low =>
    rw [le_ofNat hsecond]
    split
    · rename_i hnarrow
      have hnarrow : v / 4096 % 16 + 224 = 0xE0 := eq_toNat_of_ofNat_eq hbyte hnarrow
      show 0xA0 ≤ _
      omega
    · exact Nat.le_add_left 0x80 _
  case high =>
    rw [ofNat_le hsecond]
    split
    · rename_i hnarrow
      have hnarrow : v / 4096 % 16 + 224 = 0xED := eq_toNat_of_ofNat_eq hbyte hnarrow
      show _ ≤ 0x9F
      omega
    · show _ ≤ 0xBF
      omega

theorem scan_ofNat_four (h : 0x10000 ≤ v) (h' : v < 0x110000) (rest : List UInt8) :
    scan (UInt8.ofNat (v / 262144 % 8 + 240) :: UInt8.ofNat (v / 4096 % 64 + 128) ::
      UInt8.ofNat (v / 64 % 64 + 128) :: UInt8.ofNat (v % 64 + 128) :: rest) =
      some (Char.ofNat v) :: scan rest := by
  have hbyte : v / 262144 % 8 + 240 < 256 := by omega
  have hsecond : v / 4096 % 64 + 128 < 256 := by omega
  have hfirst := follow?_four ((le_ofNat hbyte).2 (show 0xF0 ≤ _ by omega))
    ((ofNat_le hbyte).2 (show _ ≤ 0xF4 by omega))
  have hv : (((v / 262144 % 8 + 240) % 8 * 64 + v / 4096 % 64) * 64 + v / 64 % 64) * 64 + v % 64
      = v := by omega
  rw [scan_four hfirst ?low ?high (isTail_ofNat _) (isTail_ofNat v),
    UInt8.toNat_ofNat_of_lt' hbyte, tailBits_ofNat, tailBits_ofNat, tailBits_ofNat, hv]
  case low =>
    rw [le_ofNat hsecond]
    split
    · rename_i hnarrow
      have hnarrow : v / 262144 % 8 + 240 = 0xF0 := eq_toNat_of_ofNat_eq hbyte hnarrow
      show 0x90 ≤ _
      omega
    · exact Nat.le_add_left 0x80 _
  case high =>
    rw [ofNat_le hsecond]
    split
    · rename_i hnarrow
      have hnarrow : v / 262144 % 8 + 240 = 0xF4 := eq_toNat_of_ofNat_eq hbyte hnarrow
      show _ ≤ 0x8F
      omega
    · show _ ≤ 0xBF
      omega

/-! ### Texts -/

/-- The bytes of a character are read as that character, whatever follows. -/
theorem scan_utf8EncodeChar (c : Char) (rest : List UInt8) :
    scan (String.utf8EncodeChar c ++ rest) = some c :: scan rest := by
  have hvalid : c.val.toNat < 0xD800 ∨ (0xDFFF < c.val.toNat ∧ c.val.toNat < 0x110000) := c.valid
  have hchar : Char.ofNat c.val.toNat = c := Char.ofNat_toNat c
  rw [String.utf8EncodeChar]
  generalize c.val.toNat = v at *
  subst hchar
  split
  · have hbyte : v < 256 := by omega
    have hascii : UInt8.ofNat v < 0x80 := by
      rw [← UInt8.not_le, le_ofNat hbyte]
      show ¬ 0x80 ≤ v
      omega
    rw [List.singleton_append, scan_cons_of_lt hascii, UInt8.toNat_ofNat_of_lt' hbyte]
  split
  · exact scan_ofNat_two (by omega) (by omega) rest
  split
  · exact scan_ofNat_three (by omega) (by omega) (by omega) rest
  · exact scan_ofNat_four (by omega) (by omega) rest

theorem scan_bytes (s : String) : scan (bytes s) = s.toList.map some := by
  rw [bytes]
  induction s.toList with
  | nil => exact scan_nil
  | cons c cs ih => rw [List.flatMap_cons, scan_utf8EncodeChar, ih, List.map_cons]

/-- **A text is read back from its bytes.** -/
theorem lossy_bytes (s : String) : lossy (bytes s) = s := by
  have hshown : (fun o : Option Char ↦ o.getD replacement) ∘ some = id := rfl
  rw [lossy, scan_bytes, List.map_map, hshown, List.map_id, String.ofList_toList]

@[simp] theorem lossy_nil : lossy [] = "" := by
  rw [lossy, scan_nil]
  rfl

theorem bytes_eq_nil_iff {s : String} : bytes s = [] ↔ s = "" := by
  constructor
  · intro h
    rw [← lossy_bytes s, h, lossy_nil]
  · rintro rfl
    rfl

end SocketWatch.Utf8
