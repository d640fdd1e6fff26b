/-!
# UTF-8 with ill-formed parts marked

Captured bytes are text only by convention, so decoding never fails here. `scan` reads a byte
list as a list of characters in which each *maximal ill-formed part* is marked by `none`: the
longest run of bytes that begins a well-formed character without finishing one, or else a single
byte that begins none. Both readings of bytes as text come from it. `lossy` shows each mark as
the replacement character, and `text?` is defined only where there is no mark.
-/

namespace SocketWatch.Utf8

/-- How a character continues after its first byte: the range of the second byte, and how many
further bytes in `0x80..0xBF` follow that one. -/
structure Follow where
  /-- The least second byte. -/
  low : UInt8
  /-- The greatest second byte. -/
  high : UInt8
  /-- Bytes after the second. -/
  more : Nat

/-- How a character of at least two bytes continues after the byte `b`; `none` where no such
character starts. The narrowed ranges leave out overlong forms, surrogates and what lies past
the last code point. -/
def follow? (b : UInt8) : Option Follow :=
  if b < 0xC2 then none
  else if b ≤ 0xDF then some ⟨0x80, 0xBF, 0⟩
  else if b = 0xE0 then some ⟨0xA0, 0xBF, 1⟩
  else if b = 0xED then some ⟨0x80, 0x9F, 1⟩
  else if b ≤ 0xEF then some ⟨0x80, 0xBF, 1⟩
  else if b = 0xF0 then some ⟨0x90, 0xBF, 2⟩
  else if b ≤ 0xF3 then some ⟨0x80, 0xBF, 2⟩
  else if b = 0xF4 then some ⟨0x80, 0x8F, 2⟩
  else none

/-- Whether a byte continues a character. -/
def isTail (b : UInt8) : Bool := 0x80 ≤ b && b ≤ 0xBF

/-- The six bits a continuing byte carries. -/
def tailBits (b : UInt8) : Nat := b.toNat % 64

/-- The characters of a byte list, `none` for each maximal ill-formed part. -/
def scan : List UInt8 → List (Option Char)
  | [] => []
  | b :: rest =>
    if b < 0x80 then some (Char.ofNat b.toNat) :: scan rest
    else match follow? b with
      | none => none :: scan rest
      | some f => match rest with
        | [] => [none]
        | b₁ :: rest₁ =>
          if b₁ < f.low || f.high < b₁ then none :: scan (b₁ :: rest₁)
          else match f.more with
            | 0 => some (Char.ofNat (b.toNat % 32 * 64 + tailBits b₁)) :: scan rest₁
            | more + 1 => match rest₁ with
              | [] => [none]
              | b₂ :: rest₂ =>
                if !isTail b₂ then none :: scan (b₂ :: rest₂)
                else match more with
                  | 0 => some (Char.ofNat ((b.toNat % 16 * 64 + tailBits b₁) * 64 + tailBits b₂))
                      :: scan rest₂
                  | _ + 1 => match rest₂ with
                    | [] => [none]
                    | b₃ :: rest₃ =>
                      if !isTail b₃ then none :: scan (b₃ :: rest₃)
                      else some (Char.ofNat
                        (((b.toNat % 8 * 64 + tailBits b₁) * 64 + tailBits b₂) * 64
                          + tailBits b₃)) :: scan rest₃

/-- The character shown for an ill-formed part. -/
def replacement : Char := '\uFFFD'

/-- Bytes as text, each maximal ill-formed part shown as one replacement character. -/
def lossy (bytes : List UInt8) : String :=
  String.ofList ((scan bytes).map (·.getD replacement))

/-- Bytes as text, where they are well formed. -/
def text? (bytes : List UInt8) : Option String :=
  ((scan bytes).mapM id).map String.ofList

/-- The bytes of a text. -/
def bytes (s : String) : List UInt8 := s.toList.flatMap String.utf8EncodeChar

@[simp] theorem scan_nil : scan [] = [] := by rw [scan.eq_def]

/-- A byte below `0x80` is a character by itself. -/
theorem scan_cons_of_lt {b : UInt8} (h : b < 0x80) (rest : List UInt8) :
    scan (b :: rest) = some (Char.ofNat b.toNat) :: scan rest := by
  rw [scan.eq_def]; simp [h]

end SocketWatch.Utf8
