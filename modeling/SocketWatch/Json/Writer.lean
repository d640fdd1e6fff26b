import SocketWatch.Json.Basic
/-!
# Writing JSON

The compact form: no blanks, members in the order given, characters outside ASCII as they are. In
a string only the quote, the backslash and the control characters below the space are escaped,
the latter by a letter where there is one and by four small hexadecimal digits otherwise.
-/

namespace SocketWatch.Json

/-- A character as it is written inside a string. -/
def writeChar (c : Char) : List Char :=
  if c = '"' then ['\\', '"']
  else if c = '\\' then ['\\', '\\']
  else if c = '\x08' then ['\\', 'b']
  else if c = '\x0c' then ['\\', 'f']
  else if c = '\n' then ['\\', 'n']
  else if c = '\r' then ['\\', 'r']
  else if c = '\t' then ['\\', 't']
  else if c.toNat < 0x20 then
    ['\\', 'u', '0', '0', Numeral.hexChar (c.toNat / 16), Numeral.hexChar c.toNat]
  else [c]

/-- A string with its quotes. -/
def writeText (s : String) : List Char := '"' :: s.toList.flatMap writeChar ++ ['"']

mutual

/-- The characters of a document. A number that is no integer and a garbled part, which no
document made by this library holds, are written as null. -/
def write : Json → List Char
  | .null => ['n', 'u', 'l', 'l']
  | .bool true => ['t', 'r', 'u', 'e']
  | .bool false => ['f', 'a', 'l', 's', 'e']
  | .int i => (Numeral.intText i).toList
  | .real => ['n', 'u', 'l', 'l']
  | .garbled => ['n', 'u', 'l', 'l']
  | .text s => writeText s
  | .list [] => ['[', ']']
  | .list (x :: xs) => '[' :: write x ++ writeItems xs
  | .object [] => ['\x7b', '\x7d']
  | .object ((name, v) :: ms) =>
    '\x7b' :: writeText name ++ ':' :: write v ++ writeMembers ms

/-- The items after the first, and the closing bracket. -/
def writeItems : List Json → List Char
  | [] => [']']
  | x :: xs => ',' :: write x ++ writeItems xs

/-- The members after the first, and the closing brace. -/
def writeMembers : List (String × Json) → List Char
  | [] => ['\x7d']
  | (name, v) :: ms => ',' :: writeText name ++ ':' :: write v ++ writeMembers ms

end

/-- The text of a document. -/
def render (j : Json) : String := String.ofList (write j)

end SocketWatch.Json
