import SocketWatch.Settings.Yaml.Cursor
import SocketWatch.Settings.Yaml.Tag
/-!
# Tokens

A YAML text is a sequence of tokens: its scalars, the marks that stand in the text, and marks for
what its indentation says. With these last ones in place the nesting of the text can be read off
the tokens alone. Here are also the readers of the tokens that take part of a line to themselves.
-/

namespace SocketWatch.Yaml

/-- A token. -/
inductive Token where
  /-- The version that a document is written in. -/
  | version
  /-- What a handle stands for in a document. -/
  | handle (name beginning : String)
  /-- A document begins. -/
  | documentStart
  /-- A document ends. -/
  | documentEnd
  /-- A sequence in block form begins. -/
  | blockSequence
  /-- A mapping in block form begins. -/
  | blockMapping
  /-- A sequence or mapping in block form ends. -/
  | blockEnd
  /-- A sequence in flow form begins. -/
  | flowSequence
  /-- A sequence in flow form ends. -/
  | flowSequenceEnd
  /-- A mapping in flow form begins. -/
  | flowMapping
  /-- A mapping in flow form ends. -/
  | flowMappingEnd
  /-- An item of a sequence in block form follows. -/
  | blockEntry
  /-- An item or member of a flow collection follows. -/
  | flowEntry
  /-- A key follows. -/
  | key
  /-- The value for a key follows. -/
  | value
  /-- The node with a name stands here as well. -/
  | alias (name : String)
  /-- The node that follows has a name. -/
  | anchor (name : String)
  /-- The node that follows has a tag. -/
  | tag (tag : Tag)
  /-- A scalar, plain or in another form. -/
  | scalar (isPlain : Bool) (text : String)
deriving DecidableEq, Repr, Inhabited

/-- Whether a character may occur in the name of a node. -/
def isAnchorChar (c : Char) : Bool :=
  !isBlank c && c ≠ '\n' && c ≠ '\uFEFF' && !isFlowMark c

/-- Read a mark and the name of a node behind it. -/
def Cursor.anchor? (c : Cursor) : Option (String × Cursor) :=
  match (c.rest.drop 1).takeWhile isAnchorChar with
  | [] => none
  | name => some (String.ofList name, c.past (1 + name.length))

/-- Read a tag, which a blank has to follow, or in a flow collection one of its marks. -/
def Cursor.tag? (c : Cursor) (flow : Bool) : Option (Tag × Cursor) := do
  let (tag, rest) ← Tag.read? c.rest
  if atBlank rest || (flow && atFlowMark rest) then some (tag, c.upTo rest) else none

/-! ### Directives -/

namespace Directive

/-- What follows a number of at most nine digits. -/
def number? (cs : List Char) : Option (List Char) :=
  let length := (cs.takeWhile Char.isDigit).length
  if length = 0 || 9 < length then none else some (cs.drop length)

/-- What follows the two numbers of a version. -/
def version? (cs : List Char) : Option (List Char) := do
  match ← number? (cs.dropWhile isBlank) with
  | '.' :: rest => number? rest
  | _ => none

/-- A handle, what it stands for, and what follows. -/
def handle? (cs : List Char) : Option (String × String × List Char) := do
  let (handle, rest) ← Tag.handle? (cs.dropWhile isBlank)
  if handle ≠ ['!'] && !Tag.isHandle handle then none
  let rest := rest.dropWhile isBlank
  let isLocal := rest.head? = some '!'
  if !isLocal && !rest.head?.any isTagChar then none
  let (beginning, rest) ← uriFrom isUriChar 0 rest
  if atBlank rest then some (String.ofList handle, String.ofList beginning, rest) else none

end Directive

/-- Read a directive and the end of its line. One that is not known lets an empty handle stand for
nothing, which changes no tag. -/
def Cursor.directive? (c : Cursor) : Option (Token × Cursor) := do
  let name := (c.rest.drop 1).takeWhile isNameChar
  let c' := c.past (1 + name.length)
  if name.isEmpty || !atBlank c'.rest then none
  let (token, behind) ← match String.ofList name with
    | "YAML" => (Directive.version? c'.rest).map fun rest ↦ (Token.version, c'.upTo rest)
    | "TAG" => (Directive.handle? c'.rest).map fun (handle, beginning, rest) ↦
      (Token.handle handle beginning, c'.upTo rest)
    | _ => some (Token.handle "" "", c'.skipWhile (· ≠ '\n'))
  match ← behind.skipInline? with
  | { rest := '\n' :: rest, toPlace := p } => some (token, { p.newline with rest })
  | behind => if behind.rest.isEmpty then some (token, behind) else none

end SocketWatch.Yaml
