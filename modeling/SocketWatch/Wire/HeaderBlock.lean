import SocketWatch.Fields
import SocketWatch.Text.Ascii
import SocketWatch.Text.Blank
import SocketWatch.Text.Utf8
import SocketWatch.Wire.Bytes
/-!
# HTTP header blocks

The header block of a captured message is what stands between its start line and the first empty
line. A capture may end inside the block; then it counts as ending after the last line that was
captured with its end, so a line cut off is never read.

The block is read as a whole: one line that is no header makes it a block without headers.
-/

namespace SocketWatch.Wire.HeaderBlock

/-- The most headers a block may hold. -/
def capacity : Nat := 64

/-- The lines up to the last one that was captured with its end, ends included. -/
def wholeLines? (bs : List UInt8) : Option (List UInt8) :=
  (splitAt? crlf.reverse bs.reverse).map fun (_, before) ↦ before.reverse ++ crlf

/-- The header block of a message, up to and with its empty line; a block cut off by the capture
is given one. -/
def ofMessage? (data : List UInt8) : Option (List UInt8) := do
  let (_, rest) ← line? data
  match splitAt? (crlf ++ crlf) rest with
  | some (before, _) => some (before ++ crlf ++ crlf)
  | none => (wholeLines? rest).map (· ++ crlf)

/-- Whether a byte may stand in a header name. -/
def isNameByte (b : UInt8) : Bool :=
  Ascii.isLetter b || Ascii.isDigit b || (Ascii.bytes "!#$%&'*+-.^_\x60|~").contains b

/-- Whether a byte may stand in a header value: no control character except the tab. -/
def isValueByte (b : UInt8) : Bool := b = 9 || (0x20 ≤ b && b ≠ 0x7F)

/-- Whether a byte is a space or a tab. -/
def isBlank (b : UInt8) : Bool := b = 0x20 || b = 9

/-- The lines of a block without their line feeds; what follows the last line feed is no line.
`line` is the reversed beginning of the current line. -/
def linesFrom (line : List UInt8) : List UInt8 → List (List UInt8)
  | [] => []
  | b :: bs => if b = 10 then line.reverse :: linesFrom [] bs else linesFrom (b :: line) bs

/-- Drop one carriage return at the end. -/
def dropReturn (line : List UInt8) : List UInt8 :=
  if line.getLast? = some 13 then line.dropLast else line

/-- The name and the value of a header line, the value without the blanks around it. -/
def header? (line : List UInt8) : Option (List UInt8 × List UInt8) :=
  let name := line.takeWhile isNameByte
  match line.dropWhile isNameByte with
  | 0x3A :: value =>
    if !name.isEmpty && value.all isValueByte then
      some (name, ((value.dropWhile isBlank).reverse.dropWhile isBlank).reverse)
    else none
  | _ => none

/-- The headers of the lines up to the first empty one; `none` where a line is no header, where
there are more than `room` headers, or where no line is empty. -/
def headers? (room : Nat) : List (List UInt8) → Option (List (List UInt8 × List UInt8))
  | [] => none
  | l :: ls =>
    let line := dropReturn l
    if line.isEmpty then some []
    else match room with
      | 0 => none
      | room + 1 => do
        let h ← header? line
        let hs ← headers? room ls
        some (h :: hs)

/-- A header name in small letters. -/
def nameText (name : List UInt8) : String :=
  String.ofList (name.map fun b ↦ (Char.ofNat b.toNat).toLower)

/-- A header value as text, without white space around it. -/
def valueText (value : List UInt8) : String :=
  String.ofList (Text.trim (Utf8.lossy value).toList)

/-- The headers of a message under lowercase names; of equal names the last counts. -/
def ofMessage (data : List UInt8) : Fields String :=
  let headers := do headers? capacity (linesFrom [] (← ofMessage? data))
  Fields.ofList ((headers.getD []).map fun (n, v) ↦ (nameText n, valueText v))

end SocketWatch.Wire.HeaderBlock
