import SocketWatch.Text.Numeral
/-!
# Tags

A tag says what a node is. It is written in full between angle brackets, or short, as a handle and
a suffix, where the handle stands for a beginning that many tags share. Both are made of the
characters of a URI, of which any may be escaped as a per cent sign and the hexadecimal digits of
its bytes.
-/

namespace SocketWatch.Yaml

/-! ### URIs -/

/-- Whether a character may occur in a URI. -/
def isUriChar (c : Char) : Bool :=
  c.isAlphanum || "-#;/?:@&=+$,_.!~*'()[]%".toList.contains c

/-- Whether a character may occur in the suffix of a tag. -/
def isTagChar (c : Char) : Bool := isUriChar c && !",[]!".toList.contains c

/-- The byte an escape sequence stands for. -/
def escapedByte? : List Char → Option Nat
  | '%' :: a :: b :: _ => Numeral.digits? 16 [a, b]
  | _ => none

/-- How many bytes follow the first byte of a character. -/
def bytesBehind? (byte : Nat) : Option Nat :=
  if byte < 0x80 then some 0
  else if 0xC0 ≤ byte && byte < 0xE0 then some 1
  else if 0xE0 ≤ byte && byte < 0xF0 then some 2
  else if 0xF0 ≤ byte && byte < 0xF8 then some 3
  else none

/-- A number with so many more escaped bytes behind it. -/
def escapedBytes? : Nat → Nat → List Char → Option Nat
  | 0, code, _ => some code
  | count + 1, code, cs => do
    let byte ← escapedByte? cs
    if byte / 64 = 2 then escapedBytes? count (code * 256 + byte) (cs.drop 3) else none

/-- The character that escape sequences stand for and how long they are together. The bytes are
taken as the digits of its number. -/
def uriEscape? (cs : List Char) : Option (Char × Nat) := do
  let byte ← escapedByte? cs
  let count ← bytesBehind? byte
  let code ← escapedBytes? count byte (cs.drop 3)
  if code.isValidChar then some (Char.ofNat code, 3 * (count + 1)) else none

/-- The characters of a class and what follows them, escape sequences resolved. `skip` characters
in front belong to an escape sequence. -/
def uriFrom (isMember : Char → Bool) (skip : Nat) : List Char → Option (List Char × List Char)
  | [] => some ([], [])
  | c :: cs =>
    match skip with
    | skip + 1 => uriFrom isMember skip cs
    | 0 =>
      if !isMember c then some ([], c :: cs)
      else do
        let (d, length) ← if c = '%' then uriEscape? (c :: cs) else some (c, 1)
        let (text, rest) ← uriFrom isMember (length - 1) cs
        some (d :: text, rest)

/-! ### Tags -/

/-- A tag. -/
structure Tag where
  /-- What it begins with, or the handle that stands for that. -/
  handle : String
  /-- The rest of it. -/
  suffix : String
deriving DecidableEq, Repr, Inhabited

namespace Tag

/-- What the tags of the common kinds of values begin with. -/
def common : String := "tag:yaml.org,2002:"

/-- Whether a text is a handle with a name, which has an exclamation mark at either end. -/
def isHandle (cs : List Char) : Bool := 2 ≤ cs.length && cs.getLast? = some '!'

/-- An exclamation mark, what may be the name of a handle, and the mark that closes it. -/
def handle? : List Char → Option (List Char × List Char)
  | '!' :: cs =>
    let name := cs.takeWhile fun c ↦ c.isAlphanum || c = '_' || c = '-'
    match cs.drop name.length with
    | '!' :: rest => some ('!' :: name ++ ['!'], rest)
    | rest => some ('!' :: name, rest)
  | _ => none

/-- Read a tag that is written short. Without a closing mark there is no name, and what looked like
one belongs to the suffix. An exclamation mark alone is a suffix. -/
def short? (cs : List Char) : Option (Tag × List Char) := do
  let (handle, rest) ← handle? cs
  let (suffix, rest) ← uriFrom isTagChar 0 rest
  if isHandle handle then
    if suffix.isEmpty then none
    else some (⟨String.ofList handle, String.ofList suffix⟩, rest)
  else
    match handle.drop 1 ++ suffix with
    | [] => some (⟨"", "!"⟩, rest)
    | suffix => some (⟨"!", String.ofList suffix⟩, rest)

/-- Read a tag. -/
def read? : List Char → Option (Tag × List Char)
  | '!' :: '<' :: cs => do
    let (suffix, rest) ← uriFrom isUriChar 0 cs
    match rest with
    | '>' :: rest => some (⟨"", String.ofList suffix⟩, rest)
    | _ => none
  | cs => short? cs

/-- The tag with its handle replaced by what a document says it stands for. A handle with a name
has to stand for something; two exclamation marks do without being told. -/
def resolve? (handles : List (String × String)) (t : Tag) : Option Tag :=
  match handles.lookup t.handle with
  | some beginning => some { t with handle := beginning }
  | none =>
    if t.handle = "!!" then some { t with handle := common }
    else if isHandle t.handle.toList then none
    else some t

end Tag

end SocketWatch.Yaml
