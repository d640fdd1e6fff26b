import Mathlib.Data.List.Induction
import SocketWatch.Wire.Bytes
/-!
# Numbers and patterns on the wire, byte by byte

A number fits a word of as many bytes as it has (`uint?_lt`), and one that fits is read back as it
was written (`uint?_writeUints`, `int?_writeUints`). A number of one byte is that byte
(`uint?_one`), and one of two bytes puts the first in front of the second (`uint?_two`). What is
known of the bytes at a place is thereby known of the number there.

A pattern is found where it occurs first. That no occurrence is earlier is said of the bytes in
front of it and all but the last byte of the pattern itself (`splitAt?_append`), since an occurrence
that begins among these bytes may end in the pattern. What is put behind a capture does not change
where a pattern is found in it (`splitAt?_append_of_eq_some`).
-/

namespace SocketWatch.Wire

variable {bs : List UInt8} {start size n : Nat}

theorem slice?_zero_append (part rest : List UInt8) :
    slice? (part ++ rest) 0 part.length = some part := by
  rw [slice?, if_pos (by simp), List.drop_zero, List.take_left]

section

variable (front bs : List UInt8) (start size : Nat)

theorem slice?_append :
    slice? (front ++ bs) (front.length + start) size = slice? bs start size := by
  have hiff : front.length + start + size ≤ (front ++ bs).length ↔ start + size ≤ bs.length := by
    rw [List.length_append]
    omega
  simp only [slice?, hiff, List.drop_length_add_append]

theorem uint?_append : uint? (front ++ bs) (front.length + start) size = uint? bs start size := by
  rw [uint?, uint?, slice?_append]

/-- Behind bytes of which it is known how many they are. -/
theorem uint?_behind {front : List UInt8} {length : Nat} (h : front.length = length) :
    uint? (front ++ bs) (length + start) size = uint? bs start size :=
  h ▸ uint?_append front bs start size

theorem uintLittle?_append :
    uintLittle? (front ++ bs) (front.length + start) size = uintLittle? bs start size := by
  rw [uintLittle?, uintLittle?, slice?_append]

end

theorem length_of_slice? {part : List UInt8} (h : slice? bs start size = some part) :
    part.length = size ∧ start + size ≤ bs.length := by
  unfold slice? at h
  split at h
  · cases h
    simp only [List.length_take, List.length_drop]
    omega
  · cases h

theorem slice?_drop {i : Nat} (h : start ≤ bs.length) :
    slice? (bs.drop start) i size = slice? bs (start + i) size := by
  have hiff : i + size ≤ bs.length - start ↔ start + i + size ≤ bs.length := by omega
  simp only [slice?, List.length_drop, List.drop_drop, hiff]

theorem count_bytes_succ (size : Nat) :
    Word.count (8 * (size + 1)) = 256 * Word.count (8 * size) := by
  rw [Nat.mul_succ]
  simp only [Word.count_succ]
  omega

/-- A number of so many bytes fits a word of as many. -/
theorem bigEndian_lt (bs : List UInt8) : bigEndian bs < Word.count (8 * bs.length) := by
  induction bs using List.reverseRecOn with
  | nil => exact Nat.one_pos
  | append_singleton bs b ih =>
    have hb := b.toNat_lt
    have hcount : Word.count (8 * (bs ++ [b]).length) = 256 * Word.count (8 * bs.length) := by
      rw [List.length_append, List.length_singleton, count_bytes_succ]
    have hvalue : bigEndian (bs ++ [b]) = bigEndian bs * 256 + b.toNat := by
      rw [bigEndian, List.foldl_append]
      rfl
    omega

theorem uint?_le (h : uint? bs start size = some n) : start + size ≤ bs.length := by
  obtain ⟨part, hpart, -⟩ := Option.map_eq_some_iff.1 h
  exact (length_of_slice? hpart).2

theorem uint?_lt (h : uint? bs start size = some n) : n < Word.count (8 * size) := by
  obtain ⟨part, hpart, rfl⟩ := Option.map_eq_some_iff.1 h
  exact (length_of_slice? hpart).1 ▸ bigEndian_lt part

theorem uint?_one {b : UInt8} (h : bs[start]? = some b) : uint? bs start 1 = some b.toNat := by
  obtain ⟨hlt, rfl⟩ := List.getElem?_eq_some_iff.1 h
  have hslice : slice? bs start 1 = some [bs[start]] := by
    rw [slice?, if_pos (by omega), List.drop_eq_getElem_cons hlt]
    rfl
  rw [uint?, hslice]
  simp [bigEndian]

theorem byte_of_uint?_one (h : uint? bs start 1 = some n) :
    ∃ b, bs[start]? = some b ∧ n = b.toNat := by
  have hlt : start < bs.length := uint?_le h
  have hget : bs[start]? = some bs[start] := List.getElem?_eq_getElem hlt
  exact ⟨bs[start], hget, Option.some.inj (h.symm.trans (uint?_one hget))⟩

theorem uint?_two (h : uint? bs start 2 = some n) :
    ∃ high low : UInt8, bs[start]? = some high ∧ bs[start + 1]? = some low ∧
      n = high.toNat * 256 + low.toNat := by
  obtain ⟨part, hpart, rfl⟩ := Option.map_eq_some_iff.1 h
  unfold slice? at hpart
  split at hpart
  · rename_i hle
    have hfirst : start < bs.length := by omega
    have hsecond : start + 1 < bs.length := by omega
    rw [List.drop_eq_getElem_cons hfirst, List.drop_eq_getElem_cons hsecond] at hpart
    refine ⟨bs[start], bs[start + 1], List.getElem?_eq_getElem _, List.getElem?_eq_getElem _, ?_⟩
    rw [← Option.some.inj hpart]
    simp only [bigEndian, List.take_succ_cons, List.take_zero, List.foldl_cons, List.foldl_nil]
    omega
  · cases hpart

/-- What is there is there in a longer capture too. -/
theorem slice?_append_of_eq_some {part : List UInt8} (h : slice? bs start size = some part)
    (more : List UInt8) : slice? (bs ++ more) start size = some part := by
  have hle := (length_of_slice? h).2
  have hthere : size ≤ (bs.drop start).length := by
    rw [List.length_drop]
    omega
  have hmore : start + size ≤ (bs ++ more).length := by
    rw [List.length_append]
    omega
  rw [slice?, if_pos hle] at h
  rw [slice?, if_pos hmore, List.drop_append_of_le_length (by omega),
    List.take_append_of_le_length hthere, h]

theorem uint?_append_of_eq_some (h : uint? bs start size = some n) (more : List UInt8) :
    uint? (bs ++ more) start size = some n := by
  obtain ⟨part, hpart, rfl⟩ := Option.map_eq_some_iff.1 h
  rw [uint?, slice?_append_of_eq_some hpart, Option.map_some]

theorem uint?_of_length_lt (h : bs.length < start + size) : uint? bs start size = none := by
  rw [uint?, slice?, if_neg (Nat.not_le.2 h), Option.map_none]

/-! ### Writing -/

/-- A number in so many bytes, most significant byte first. Of a number that does not fit, these are
the last ones. -/
def writeUint : Nat → Nat → List UInt8
  | 0, _ => []
  | size + 1, n => writeUint size (n / 256) ++ [UInt8.ofNat n]

@[simp] theorem length_writeUint (size n : Nat) : (writeUint size n).length = size := by
  induction size generalizing n with
  | zero => rfl
  | succ size ih => rw [writeUint, List.length_append, ih, List.length_singleton]

/-- A number that fits is read back. -/
theorem bigEndian_writeUint (h : n < Word.count (8 * size)) : bigEndian (writeUint size n) = n := by
  induction size generalizing n with
  | zero => exact (Nat.lt_one_iff.1 h).symm
  | succ size ih =>
    rw [count_bytes_succ] at h
    have hhigh : bigEndian (writeUint size (n / 256)) = n / 256 := ih (by omega)
    rw [writeUint, bigEndian, List.foldl_append]
    show bigEndian (writeUint size (n / 256)) * 256 + (UInt8.ofNat n).toNat = n
    rw [hhigh, UInt8.toNat_ofNat']
    omega

theorem uint?_writeUint (h : n < Word.count (8 * size)) (rest : List UInt8) :
    uint? (writeUint size n ++ rest) 0 size = some n := by
  have hslice := slice?_zero_append (writeUint size n) rest
  rw [length_writeUint] at hslice
  rw [uint?, hslice, Option.map_some, bigEndian_writeUint h]

/-- Least significant byte first is most significant byte first in reverse. -/
theorem littleEndian_reverse (bs : List UInt8) : littleEndian bs.reverse = bigEndian bs :=
  List.foldr_reverse

/-- A number of at most 32 bits that was written least significant byte first is read back. -/
theorem uintLittle?_writeUint (h : n < Word.count (8 * size)) (h' : n < Word.count 32)
    (rest : List UInt8) : uintLittle? ((writeUint size n).reverse ++ rest) 0 size = some n := by
  have hslice := slice?_zero_append (writeUint size n).reverse rest
  rw [List.length_reverse, length_writeUint] at hslice
  rw [uintLittle?, hslice, Option.map_some, littleEndian_reverse, bigEndian_writeUint h,
    Nat.mod_eq_of_lt h']

/-- Numbers one after another, each with how many bytes it has. -/
def writeUints (numbers : List (Nat × Nat)) : List UInt8 :=
  numbers.flatMap fun number ↦ writeUint number.1 number.2

/-- A number among others stands behind the bytes of those in front of it. -/
theorem uint?_writeUints {numbers : List (Nat × Nat)} {i : Nat} (hi : numbers[i]? = some (size, n))
    (h : n < Word.count (8 * size)) (rest : List UInt8) :
    uint? (writeUints numbers ++ rest) (writeUints (numbers.take i)).length size = some n := by
  obtain ⟨hlt, hget⟩ := List.getElem?_eq_some_iff.1 hi
  have hsplit : writeUints numbers ++ rest = writeUints (numbers.take i) ++
      (writeUint size n ++ (writeUints (numbers.drop (i + 1)) ++ rest)) := by
    conv_lhs => rw [← List.take_append_drop i numbers, List.drop_eq_getElem_cons hlt, hget]
    simp only [writeUints, List.flatMap_append, List.flatMap_cons, List.append_assoc]
  rw [hsplit]
  exact (uint?_append _ _ 0 size).trans (uint?_writeUint h _)

/-- A word among others is read with the sign it has. -/
theorem int?_writeUints (size : Nat) {numbers : List (Nat × Nat)} {i : Nat} (x : BitVec (8 * size))
    (hi : numbers[i]? = some (size, x.toNat)) (rest : List UInt8) :
    int? (writeUints numbers ++ rest) (writeUints (numbers.take i)).length size = some x.toInt := by
  have hcount : Word.count (8 * size) = 2 ^ (8 * size) := Nat.one_shiftLeft _
  rw [int?, uint?_writeUints hi (hcount ▸ x.isLt), Option.map_some, Word.signed, hcount,
    BitVec.toInt_eq_toNat_bmod]

/-! ### Patterns -/

variable {pattern before : List UInt8}

/-- A pattern is found where it stands, if it does not occur earlier. -/
theorem splitAt?_append (h : ¬ pattern <:+: before ++ pattern.dropLast) (after : List UInt8) :
    splitAt? pattern (before ++ pattern ++ after) = some (before, after) := by
  have hne : pattern ≠ [] := fun hnil ↦ h (hnil ▸ List.nil_infix)
  have hlength : pattern.length = pattern.dropLast.length + 1 := by
    have := List.length_pos_iff.2 hne
    rw [List.length_dropLast]
    omega
  induction before with
  | nil =>
    obtain ⟨b, bs, rfl⟩ := List.exists_cons_of_ne_nil hne
    have hbegins : (b :: bs).isPrefixOf (b :: (bs ++ after)) = true :=
      List.isPrefixOf_iff_prefix.2 (List.prefix_append (b :: bs) after)
    rw [List.nil_append, List.cons_append, splitAt?, if_pos hbegins, ← List.cons_append,
      List.drop_left]
  | cons b before ih =>
    have hnot : ¬ pattern.isPrefixOf (b :: (before ++ pattern ++ after)) = true := fun hbegins ↦ by
      have hearly : b :: (before ++ pattern.dropLast) <+: b :: (before ++ pattern ++ after) := by
        rw [List.cons_prefix_cons, List.append_assoc, List.prefix_append_right_inj]
        exact ⟨rfl, (List.dropLast_prefix pattern).trans (List.prefix_append pattern after)⟩
      have hshort : pattern.length ≤ (b :: (before ++ pattern.dropLast)).length := by
        simp only [List.length_cons, List.length_append]
        omega
      exact h (List.prefix_of_prefix_length_le (List.isPrefixOf_iff_prefix.1 hbegins) hearly
        hshort).isInfix
    rw [List.cons_append, List.cons_append, splitAt?, if_neg hnot,
      ih fun hoccurs ↦ h (List.infix_cons hoccurs)]
    rfl

theorem eq_of_splitAt? {after : List UInt8} (h : splitAt? pattern bs = some (before, after)) :
    bs = before ++ (pattern ++ after) := by
  induction bs generalizing before with
  | nil => cases h
  | cons b bs ih =>
    rw [splitAt?] at h
    split at h
    · rename_i hbegins
      cases h
      obtain ⟨rest, hrest⟩ := List.isPrefixOf_iff_prefix.1 hbegins
      rw [← hrest, List.drop_left, List.nil_append]
    · obtain ⟨found, hfound, h⟩ := Option.map_eq_some_iff.1 h
      cases h
      rw [ih hfound, List.cons_append]

/-- A pattern that is found in a capture is found at the same place in every longer one. -/
theorem splitAt?_append_of_eq_some {after : List UInt8}
    (h : splitAt? pattern bs = some (before, after)) (more : List UInt8) :
    splitAt? pattern (bs ++ more) = some (before, after ++ more) := by
  induction bs generalizing before with
  | nil => cases h
  | cons b bs ih =>
    rw [List.cons_append, splitAt?]
    rw [splitAt?] at h
    split at h
    · rename_i hbegins
      have hbegins : pattern <+: b :: bs := List.isPrefixOf_iff_prefix.1 hbegins
      have hmore : pattern.isPrefixOf (b :: (bs ++ more)) = true :=
        List.isPrefixOf_iff_prefix.2 (hbegins.trans (List.prefix_append (b :: bs) more))
      cases h
      rw [if_pos hmore, ← List.cons_append, List.drop_append_of_le_length hbegins.length_le]
    · rename_i hnot
      obtain ⟨found, hfound, h⟩ := Option.map_eq_some_iff.1 h
      cases h
      -- the pattern stands further behind, so there is room for it here and `more` does not count
      have hroom : pattern.length ≤ (b :: bs).length := by
        rw [eq_of_splitAt? hfound]
        simp only [List.length_cons, List.length_append]
        omega
      have hmore : ¬ pattern.isPrefixOf (b :: (bs ++ more)) = true := fun hbegins ↦
        hnot (List.isPrefixOf_iff_prefix.2 (List.prefix_of_prefix_length_le
          (List.isPrefixOf_iff_prefix.1 hbegins) (List.prefix_append (b :: bs) more) hroom))
      rw [if_neg hmore, ih hfound]
      rfl

theorem splitAt?_eq_none (h : ¬ pattern <:+: bs) : splitAt? pattern bs = none := by
  induction bs with
  | nil => rfl
  | cons b bs ih =>
    have hnot : ¬ pattern.isPrefixOf (b :: bs) = true := fun hbegins ↦
      h (List.isPrefixOf_iff_prefix.1 hbegins).isInfix
    rw [splitAt?, if_neg hnot, ih fun hoccurs ↦ h (List.infix_cons hoccurs)]
    rfl

end SocketWatch.Wire
