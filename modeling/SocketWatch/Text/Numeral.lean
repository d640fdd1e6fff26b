import SocketWatch.Word
/-!
# Numerals

Reading and writing whole numbers. A numeral is a non-empty run of digits with an optional sign
in front and nothing else: no blanks, no separators. Range checks are the caller's, so the
readers return mathematical integers.
-/

namespace SocketWatch.Numeral

/-- The value of a digit in a radix of at most 36; letters count in either case. -/
def digit? (radix : Nat) (c : Char) : Option Nat :=
  let n := c.toNat
  let value :=
    if 48 ≤ n && n ≤ 57 then n - 48
    else if 97 ≤ n && n ≤ 122 then n - 87
    else if 65 ≤ n && n ≤ 90 then n - 55
    else radix
  if value < radix then some value else none

/-- The number a list of digits denotes, most significant first. -/
def ofDigits (radix : Nat) (digits : List Nat) : Nat :=
  digits.foldl (fun n d ↦ n * radix + d) 0

/-- A non-empty run of digits. -/
def digits? (radix : Nat) (cs : List Char) : Option Nat :=
  if cs.isEmpty then none else (cs.mapM (digit? radix)).map (ofDigits radix)

/-- An unsigned numeral, with an optional plus sign. -/
def nat? (radix : Nat) : List Char → Option Nat
  | '+' :: cs => digits? radix cs
  | cs => digits? radix cs

/-- A signed numeral. -/
def int? (radix : Nat) : List Char → Option Int
  | '-' :: cs => (digits? radix cs).map fun n ↦ -(n : Int)
  | cs => (nat? radix cs).map Int.ofNat

/-- An unsigned numeral that so many bits hold. -/
def word? (radix bits : Nat) (cs : List Char) : Option Nat :=
  (nat? radix cs).filter (· < Word.count bits)

/-- A signed numeral that 64 bits hold. -/
def int64? (radix : Nat) (cs : List Char) : Option Int :=
  (int? radix cs).filter (Word.fitsSigned 64)

/-- A number in decimal. -/
def natText (n : Nat) : String := String.ofList (Nat.toDigits 10 n)

/-- An integer in decimal, with a minus sign where it is negative. -/
def intText : Int → String
  | .ofNat n => natText n
  | .negSucc n => "-" ++ natText (n + 1)

/-- The digit character of a value below 16, letters small. -/
def hexChar (n : Nat) : Char := Nat.digitChar (n % 16)

/-- A byte as two hexadecimal digits. -/
def hexByte (b : UInt8) : List Char := [hexChar (b.toNat / 16), hexChar b.toNat]

/-- Bytes as hexadecimal digits. -/
def hexText (bs : List UInt8) : String := String.ofList (bs.flatMap hexByte)

/-- The bytes a run of hexadecimal digits denotes, two digits each. -/
def hexBytes? : List Char → Option (List UInt8)
  | [] => some []
  | hi :: lo :: rest => do
    let h ← digit? 16 hi
    let l ← digit? 16 lo
    let bs ← hexBytes? rest
    some (UInt8.ofNat (h * 16 + l) :: bs)
  | [_] => none

end SocketWatch.Numeral
