import SocketWatch.Settings.Yaml.Token
/-!
# Layout

While a text is read into tokens, three things are remembered that no token says.

* The *margins*: the columns at which the blocks around the place begin. A token in front of a
  margin ends its block. A margin may also be left open for a block that has not begun: whatever
  stands behind the mark of an item or of a value stands one column further in, until it turns out
  to be a block with a margin of its own.
* The *key starts*: a key is known by the colon behind it, so the place where one may have begun is
  remembered, one for each flow collection around the place. When the colon comes, the marks that
  belong in front of the key are put in there.
* Whether a key may begin at all, which is so at the beginning of a line and behind some marks.
-/

namespace SocketWatch.Yaml

/-- A column that a block around the place is indented to. -/
structure Margin where
  /-- The column. -/
  column : Nat
  /-- Whether a block has begun there. -/
  isBlock : Bool
deriving DecidableEq, Repr

/-- A place where a key may have begun. -/
structure KeyStart where
  /-- The place. -/
  place : Place
  /-- How many tokens are in front. -/
  number : Nat
  /-- Whether nothing but a key can stand there. -/
  required : Bool
deriving DecidableEq, Repr

/-- The tokens that were read from the beginning of a text, and how to go on. -/
structure Layout where
  /-- What is left of the text. -/
  cursor : Cursor
  /-- The tokens. -/
  tokens : Array Token := #[]
  /-- The margins, the innermost one first. -/
  margins : List Margin := []
  /-- Where a key may have begun in the innermost flow collection, or outside of any. -/
  keyStart : Option KeyStart := none
  /-- The same for the collections around it. -/
  outer : List (Option KeyStart) := []
  /-- Whether a key may begin here. -/
  keyAllowed : Bool := true
  /-- Behind what place a colon marks a value even if no blank follows. -/
  adjacentAt : Option Nat := none
  /-- Whether keys make members of the flow mapping they stand in. -/
  inMapping : Bool := false
  /-- Whether the item of a flow sequence turned out to be a pair. -/
  inPair : Bool := false
deriving Repr

namespace Layout

variable (l : Layout)

/-! ### Tokens -/

/-- The layout at the beginning of a text. -/
def ofText (text : String) : Layout := { cursor := Cursor.ofText text }

/-- Whether the place is in a flow collection. -/
def inFlow : Bool := !l.outer.isEmpty

/-- Append a token. -/
def push (t : Token) : Layout := { l with tokens := l.tokens.push t }

/-- Put a token in behind so many others. -/
def insert (number : Nat) (t : Token) : Layout :=
  { l with tokens := l.tokens.insertIdxIfInBounds number t }

/-- Go past some characters. -/
def past (n : Nat) : Layout := { l with cursor := l.cursor.past n }

/-- Go past blanks and a comment on this line. -/
def skipInline? : Option Layout := l.cursor.skipInline?.map fun cursor ↦ { l with cursor }

/-! ### Margins -/

/-- The column of the innermost margin. -/
def indent : Int := l.margins.head?.elim (-1) fun m ↦ m.column

/-- Whether the innermost margin is that of a block. -/
def atBlock : Bool := l.margins.head?.any (·.isBlock)

/-- Go to the next token. Behind the end of a line a key may begin. -/
def skipGap? : Option Layout :=
  (l.cursor.skipGap? l.indent).map fun cursor ↦
    { l with cursor, keyAllowed := l.keyAllowed || (!l.inFlow && l.cursor.line < cursor.line) }

/-- Drop the margins that no block begins at. -/
def dropOpen : Layout := { l with margins := l.margins.dropWhile (!·.isBlock) }

/-- Leave a margin open one column further in. -/
def widen : Layout :=
  match l.margins with
  | [] => l
  | m :: _ =>
    if l.inFlow || !m.isBlock then l
    else { l with margins := { column := m.column + 1, isBlock := false } :: l.margins }

/-- End the blocks whose margins are behind a column. A flow collection keeps them. -/
def unroll (column : Int) : Layout :=
  if l.inFlow then l
  else
    let ended := l.margins.takeWhile fun m ↦ column < m.column
    { l with
      tokens := l.tokens ++ (ended.filter (·.isBlock)).map fun _ ↦ Token.blockEnd
      margins := l.margins.drop ended.length }

/-- Begin a block at a column if that is further in than the blocks around it, its mark standing
behind so many tokens. -/
def openBlock (column number : Nat) (t : Token) : Layout :=
  if l.inFlow then l
  else
    let l' := if !l.atBlock && l.indent ≤ column then { l with margins := l.margins.drop 1 } else l
    if l'.indent < column then
      { l'.insert number t with margins := { column, isBlock := true } :: l'.margins }
    else l'

/-! ### Key starts -/

/-- Give up a key that may have begun, unless nothing else can stand there. -/
def dropKey? : Option Layout :=
  if l.keyStart.any (·.required) then none else some { l with keyStart := none }

/-- Give up a key that began on another line or too far in front. In a flow collection there is
time. -/
def dropStaleKey? : Option Layout :=
  let isStale (k : KeyStart) : Bool :=
    k.place.line < l.cursor.line || k.place.index + 1024 < l.cursor.index
  if !l.inFlow && l.keyStart.any isStale then l.dropKey? else some l

/-- Remember that a key may begin here, where one is allowed. -/
def startKey? : Option Layout :=
  if !l.keyAllowed then some l
  else
    l.dropKey?.map fun l ↦
      let required := !l.inFlow && l.atBlock && l.indent = l.cursor.column
      { l with
        keyStart := some { place := l.cursor.toPlace, number := l.tokens.size, required } }

/-! ### Flow collections -/

/-- How deep flow collections may be nested. -/
def depthLimit : Nat := 255

/-- Enter a flow collection. -/
def enterFlow? : Option Layout :=
  if l.outer.length < depthLimit then
    some { l with outer := l.keyStart :: l.outer, keyStart := none }
  else none

/-- Leave a flow collection. -/
def leaveFlow : Layout :=
  match l.outer with
  | [] => l
  | k :: outer => { l with keyStart := k, outer }

/-- End the pair that an item of a flow sequence turned out to be. -/
def endPair : Layout :=
  if l.inPair then { l.push .flowMappingEnd with inPair := false, inMapping := false } else l

end Layout

end SocketWatch.Yaml
