import SocketWatch.Json.Basic
import SocketWatch.Text.Utf8
/-!
# Reading JSON

The reader works on characters among which ill-formed parts of the bytes are marked, see
`Utf8.scan`; a mark may stand inside a string, which it garbles, and nowhere else. It is strict:
blanks are space, tab, line feed and carriage return only, a number has no leading zero, control
characters are escaped, no comma trails and nothing follows the document.

Nesting is the only recursion that does not follow the input, and is bounded by a step count that
`parse?` takes from the length of the input, at most two steps a character.
-/

namespace SocketWatch.Json

/-- Characters to read, with `none` for an ill-formed part of the bytes. -/
abbrev Input := List (Option Char)

/-- Whether a character may stand between two tokens. -/
def isBlank : Option Char → Bool
  | some c => c = ' ' || c = '\t' || c = '\n' || c = '\r'
  | none => false

/-- Drop the blanks in front. -/
def skipBlank (input : Input) : Input := input.dropWhile isBlank

/-! ### Strings -/

/-- One element of a string as it is written. -/
inductive Piece where
  /-- A character, plain or escaped by a letter. -/
  | char (c : Char)
  /-- A UTF-16 unit, escaped by its number. -/
  | unit (n : Nat)
  /-- Bytes that are no text. -/
  | broken

/-- The character an escape letter stands for. -/
def escaped? : Char → Option Char
  | '"' => some '"'
  | '\\' => some '\\'
  | '/' => some '/'
  | 'b' => some '\x08'
  | 'f' => some '\x0c'
  | 'n' => some '\n'
  | 'r' => some '\r'
  | 't' => some '\t'
  | _ => none

/-- The number written by four hexadecimal digits. -/
def unit? (a b c d : Option Char) : Option Nat := do
  Numeral.digits? 16 [← a, ← b, ← c, ← d]

/-- The elements of a string up to its closing quote, and what follows the quote. -/
def quoted : Input → Option (List Piece × Input)
  | [] => none
  | some '"' :: rest => some ([], rest)
  | some '\\' :: some 'u' :: a :: b :: c :: d :: rest => do
    let n ← unit? a b c d
    let (pieces, rest) ← quoted rest
    some (.unit n :: pieces, rest)
  | some '\\' :: some e :: rest => do
    let c ← escaped? e
    let (pieces, rest) ← quoted rest
    some (.char c :: pieces, rest)
  | some '\\' :: _ => none
  | some c :: rest =>
    if c.toNat < 0x20 then none
    else (quoted rest).map fun (pieces, rest) ↦ (.char c :: pieces, rest)
  | none :: rest => (quoted rest).map fun (pieces, rest) ↦ (.broken :: pieces, rest)

/-- Whether a UTF-16 unit is the first half of a pair. -/
def isHighSurrogate (n : Nat) : Bool := 0xD800 ≤ n && n < 0xDC00

/-- Whether a UTF-16 unit is the second half of a pair. -/
def isLowSurrogate (n : Nat) : Bool := 0xDC00 ≤ n && n < 0xE000

/-- The characters a list of elements denotes; halves of a pair must meet. -/
def chars? : List Piece → Option (List Char)
  | [] => some []
  | .char c :: rest => (chars? rest).map (c :: ·)
  | .broken :: _ => none
  | .unit hi :: rest =>
    if isHighSurrogate hi then match rest with
      | .unit lo :: rest =>
        if isLowSurrogate lo then
          (chars? rest).map (Char.ofNat (0x10000 + (hi - 0xD800) * 0x400 + (lo - 0xDC00)) :: ·)
        else none
      | _ => none
    else if isLowSurrogate hi then none
    else (chars? rest).map (Char.ofNat hi :: ·)

/-- The text a list of elements denotes. -/
def text? (pieces : List Piece) : Option String := (chars? pieces).map String.ofList

/-! ### Numbers -/

/-- Split off the leading digits. -/
def takeDigits : Input → List Char × Input
  | some c :: rest =>
    if c.isDigit then ((c :: (takeDigits rest).1), (takeDigits rest).2) else ([], some c :: rest)
  | input => ([], input)

/-- A fraction, if one stands here: whether there is one, and what follows. -/
def fraction (input : Input) : Option (Bool × Input) :=
  match input with
  | some '.' :: rest =>
    let (digits, rest) := takeDigits rest
    if digits.isEmpty then none else some (true, rest)
  | _ => some (false, input)

/-- An exponent, if one stands here: whether there is one, and what follows. -/
def exponent (input : Input) : Option (Bool × Input) :=
  let digits (rest : Input) : Option (Bool × Input) :=
    let (ds, rest) := takeDigits rest
    if ds.isEmpty then none else some (true, rest)
  let signed (rest : Input) : Option (Bool × Input) :=
    match rest with
    | some '+' :: rest => digits rest
    | some '-' :: rest => digits rest
    | _ => digits rest
  match input with
  | some 'e' :: rest => signed rest
  | some 'E' :: rest => signed rest
  | _ => some (false, input)

/-- The document of a whole number: an integer where 64 bits hold it. Negative zero is kept
apart from the integers. -/
def ofWhole (negative : Bool) (n : Nat) : Json :=
  if negative then
    if n = 0 || Word.count 63 < n then .real else .int (-(n : Int))
  else if n < Word.count 64 then .int n
  else .real

/-- A number without its sign. -/
def magnitude (negative : Bool) (input : Input) : Option (Json × Input) := do
  let (whole, rest) := takeDigits input
  if whole.isEmpty || (1 < whole.length && whole.head? = some '0') then none
  else
    let (isFraction, rest) ← fraction rest
    let (isPower, rest) ← exponent rest
    let n ← Numeral.digits? 10 whole
    some (if isFraction || isPower then .real else ofWhole negative n, rest)

/-- A number. -/
def number : Input → Option (Json × Input)
  | some '-' :: rest => magnitude true rest
  | input => magnitude false input

/-! ### Documents -/

/-- The object of members whose names may be garbled. -/
def ofMembers (members : List (Option String × Json)) : Json :=
  match members.mapM fun (name, v) ↦ name.map fun n ↦ (n, v) with
  | some named => .object named
  | none => .garbled

mutual

/-- One document, with the blanks in front of it. -/
def value : Nat → Input → Option (Json × Input)
  | 0, _ => none
  | steps + 1, input =>
    match skipBlank input with
    | some '[' :: rest =>
      match skipBlank rest with
      | some ']' :: rest => some (.list [], rest)
      | rest => (items steps rest).map fun (xs, rest) ↦ (.list xs, rest)
    | some '{' :: rest =>
      match skipBlank rest with
      | some '}' :: rest => some (.object [], rest)
      | rest => (members steps rest).map fun (ms, rest) ↦ (ofMembers ms, rest)
    | some '"' :: rest =>
      (quoted rest).map fun (pieces, rest) ↦ ((text? pieces).elim .garbled .text, rest)
    | some 'n' :: some 'u' :: some 'l' :: some 'l' :: rest => some (.null, rest)
    | some 't' :: some 'r' :: some 'u' :: some 'e' :: rest => some (.bool true, rest)
    | some 'f' :: some 'a' :: some 'l' :: some 's' :: some 'e' :: rest => some (.bool false, rest)
    | rest => number rest

/-- The items of an array that has some, up to its closing bracket. -/
def items : Nat → Input → Option (List Json × Input)
  | 0, _ => none
  | steps + 1, input => do
    let (x, rest) ← value steps input
    match skipBlank rest with
    | some ']' :: rest => some ([x], rest)
    | some ',' :: rest => (items steps rest).map fun (xs, rest) ↦ (x :: xs, rest)
    | _ => none

/-- The members of an object that has some, up to its closing brace. -/
def members : Nat → Input → Option (List (Option String × Json) × Input)
  | 0, _ => none
  | steps + 1, input => do
    let some '"' :: rest := skipBlank input | none
    let (pieces, rest) ← quoted rest
    let some ':' :: rest := skipBlank rest | none
    let (v, rest) ← value steps rest
    match skipBlank rest with
    | some '}' :: rest => some ([(text? pieces, v)], rest)
    | some ',' :: rest =>
      (members steps rest).map fun (ms, rest) ↦ ((text? pieces, v) :: ms, rest)
    | _ => none

end

/-- The document that fills the input, blanks around it apart. -/
def ofInput? (input : Input) : Option Json := do
  let (v, rest) ← value (2 * input.length + 2) input
  if (skipBlank rest).isEmpty then some v else none

/-- The document a text denotes. -/
def parse? (s : String) : Option Json := ofInput? (s.toList.map some)

/-- The document a byte list denotes. -/
def parseBytes? (bytes : List UInt8) : Option Json := ofInput? (Utf8.scan bytes)

end SocketWatch.Json
