import SocketWatch.Text.Numeral
import SocketWatch.Text.Split
/-!
# IPv4 addresses

An address is a 32-bit word in host order. Its text is four decimal numbers joined by dots; the
reader takes exactly the text the writer produces, so a leading zero, a fourth digit or anything
around the address is refused.
-/

namespace SocketWatch

/-- An IPv4 address, as the word whose most significant byte is written first. -/
structure Ipv4 where
  /-- The address as a word. -/
  word : UInt32
deriving DecidableEq, Repr, Inhabited

namespace Ipv4

/-- The address `0.0.0.0`, which stands for an unknown peer. -/
def unspecified : Ipv4 := ⟨0⟩

/-- The address with these four numbers, each below 256. -/
def ofOctets (a b c d : Nat) : Ipv4 := ⟨UInt32.ofNat (((a * 256 + b) * 256 + c) * 256 + d)⟩

/-- The four numbers of an address, first one first. -/
def octets (ip : Ipv4) : List Nat :=
  let n := ip.word.toNat
  [n / 0x1000000, n / 0x10000 % 256, n / 0x100 % 256, n % 256]

/-- The text of an address. -/
def text (ip : Ipv4) : String := ".".intercalate (ip.octets.map Numeral.natText)

/-- One number of an address: one to three digits without a leading zero, below 256. -/
def octet? (cs : List Char) : Option Nat :=
  if cs.length ≤ 3 && (cs.length ≤ 1 || cs.head? ≠ some '0') then
    (Numeral.digits? 10 cs).filter (· < 256)
  else none

/-- The address a text denotes. -/
def parse? (s : String) : Option Ipv4 :=
  match Text.split (· = '.') s.toList with
  | [a, b, c, d] => do
    some (ofOctets (← octet? a) (← octet? b) (← octet? c) (← octet? d))
  | _ => none

end Ipv4

end SocketWatch
