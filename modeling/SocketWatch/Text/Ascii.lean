/-!
# ASCII case and printable renderings

Case folding here touches the letters `A` to `Z` and `a` to `z` only, which is what keywords of
the protocols below are made of.
-/

namespace SocketWatch.Ascii

/-- The text with ASCII capitals turned into small letters. -/
def lower (s : String) : String := String.ofList (s.toList.map Char.toLower)

/-- The text with ASCII small letters turned into capitals. -/
def upper (s : String) : String := String.ofList (s.toList.map Char.toUpper)

/-- Whether a byte is a visible ASCII character or a space. -/
def isPrintable (b : UInt8) : Bool := 0x20 ≤ b && b ≤ 0x7E

/-- Whether a byte is an ASCII digit. -/
def isDigit (b : UInt8) : Bool := 0x30 ≤ b && b ≤ 0x39

/-- Whether a byte is an ASCII letter. -/
def isLetter (b : UInt8) : Bool := (0x41 ≤ b && b ≤ 0x5A) || (0x61 ≤ b && b ≤ 0x7A)

/-- The bytes of an ASCII text. -/
def bytes (s : String) : List UInt8 := s.toList.map fun c ↦ UInt8.ofNat c.toNat

/-- At most `limit` bytes as text, a dot for each that is not printable. -/
def printable (limit : Nat) (bs : List UInt8) : String :=
  String.ofList <| (bs.take limit).map fun b ↦
    if isPrintable b then Char.ofNat b.toNat else '.'

end SocketWatch.Ascii
