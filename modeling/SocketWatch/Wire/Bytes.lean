import SocketWatch.Word
/-!
# Reading captured bytes

A capture keeps only the beginning of what was sent, so every read says whether the bytes are
there. A field of fixed size is there when all of it is; a window is as much as there is.
-/

namespace SocketWatch.Wire

/-- The `size` bytes from `start`, where all of them were captured. -/
def slice? (bs : List UInt8) (start size : Nat) : Option (List UInt8) :=
  if start + size ≤ bs.length then some ((bs.drop start).take size) else none

/-- The bytes from `start`, at most `size` of them. -/
def window (bs : List UInt8) (start size : Nat) : List UInt8 := (bs.drop start).take size

/-- The number whose most significant byte comes first. -/
def bigEndian (bs : List UInt8) : Nat := bs.foldl (fun n b ↦ n * 256 + b.toNat) 0

/-- The number whose least significant byte comes first. -/
def littleEndian (bs : List UInt8) : Nat := bs.foldr (fun b n ↦ n * 256 + b.toNat) 0

/-- The unsigned number of `size` bytes at `start`, most significant byte first. -/
def uint? (bs : List UInt8) (start size : Nat) : Option Nat := (slice? bs start size).map bigEndian

/-- The signed number of `size` bytes at `start`, most significant byte first. -/
def int? (bs : List UInt8) (start size : Nat) : Option Int :=
  (uint? bs start size).map fun n ↦ Word.signed (8 * size) n

/-- The unsigned number of `size` bytes at `start`, least significant byte first, of which 32 bits
are kept. -/
def uintLittle? (bs : List UInt8) (start size : Nat) : Option Nat :=
  (slice? bs start size).map fun part ↦ littleEndian part % Word.count 32

/-- What stands before the first occurrence of a pattern, and what follows it. -/
def splitAt? (pattern : List UInt8) : List UInt8 → Option (List UInt8 × List UInt8)
  | [] => none
  | b :: bs =>
    if pattern.isPrefixOf (b :: bs) then some ([], (b :: bs).drop pattern.length)
    else (splitAt? pattern bs).map fun (before, after) ↦ (b :: before, after)

/-- Carriage return and line feed. -/
def crlf : List UInt8 := [13, 10]

/-- The line that starts a byte list, without its end, and what follows; `none` where no line
ends. -/
def line? (bs : List UInt8) : Option (List UInt8 × List UInt8) := splitAt? crlf bs

end SocketWatch.Wire
