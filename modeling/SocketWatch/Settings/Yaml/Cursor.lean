/-!
# Places in a YAML text

A YAML text is read character by character, and what a character means depends on where it
stands: on its column, and on whether nothing but blanks stands in front of it on its line. A
`Place` keeps count of that, a `Cursor` is a place and what follows it.

A text is first brought into one form: line ends of all kinds become line feeds, and a null
character ends the text. So below the end of a line is one character, and the end of the text is
the empty list.
-/

namespace SocketWatch.Yaml

/-! ### Characters -/

/-- Whether a character separates words on a line. -/
def isBlank (c : Char) : Bool := c = ' ' || c = '\t'

/-- Whether a character gives structure to a flow collection. -/
def isFlowMark (c : Char) : Bool := c = ',' || c = '[' || c = ']' || c = '\x7b' || c = '\x7d'

/-- Whether a character may occur in the name of a directive or of a tag handle. -/
def isNameChar (c : Char) : Bool := c.isAlphanum || c = '_' || c = '-'

/-- Whether the line is over here. -/
def atLineEnd (cs : List Char) : Bool := cs.head?.all (· = '\n')

/-- Whether a word is over here. -/
def atBlank (cs : List Char) : Bool := cs.head?.all fun c ↦ isBlank c || c = '\n'

/-- Whether a flow collection gets its structure here. -/
def atFlowMark (cs : List Char) : Bool := cs.head?.any isFlowMark

/-- A text with one kind of line end, up to the first null character. -/
def normalize : List Char → List Char
  | [] => []
  | '\x00' :: _ => []
  | '\r' :: '\n' :: cs => '\n' :: normalize cs
  | '\r' :: cs => '\n' :: normalize cs
  | c :: cs => c :: normalize cs

/-! ### Places -/

/-- A place in a text. -/
structure Place where
  /-- How many characters stand in front. -/
  index : Nat := 0
  /-- How many lines stand in front. -/
  line : Nat := 0
  /-- How many characters stand in front on its line. -/
  column : Nat := 0
  /-- Whether nothing but blanks stands in front on its line. -/
  leading : Bool := true
deriving DecidableEq, Repr, Inhabited

namespace Place

variable (p : Place)

/-- The place behind a blank. -/
def blank : Place := { p with index := p.index + 1, column := p.column + 1 }

/-- The place behind some characters on the line that are more than blanks. -/
def past (n : Nat) : Place :=
  { p with index := p.index + n, column := p.column + n, leading := false }

/-- The place behind a character that is more than a blank. -/
def mark : Place := p.past 1

/-- The place behind the end of the line. -/
def newline : Place := { index := p.index + 1, line := p.line + 1, column := 0, leading := true }

end Place

/-- A place and what follows it. -/
structure Cursor extends Place where
  /-- The characters that follow. -/
  rest : List Char
deriving DecidableEq, Repr, Inhabited

namespace Cursor

variable (c : Cursor)

/-- The cursor at the beginning of a text. -/
def ofText (text : String) : Cursor := { rest := normalize text.toList }

/-- Go past some characters on the line that are more than blanks. -/
def past (n : Nat) : Cursor := { c.toPlace.past n with rest := c.rest.drop n }

/-- Go on to where the rest of the line begins that is handed in. -/
def upTo (rest : List Char) : Cursor := c.past (c.rest.length - rest.length)

/-- The blanks that follow. -/
def blanks : List Char := c.rest.takeWhile isBlank

/-- Go past the blanks that follow. -/
def skipBlanks : Cursor :=
  let n := c.blanks.length
  { c with index := c.index + n, column := c.column + n, rest := c.rest.drop n }

/-- Go past the characters of a class. -/
def skipWhile (isMember : Char → Bool) : Cursor :=
  let n := (c.rest.takeWhile isMember).length
  if n = 0 then c else c.past n

/-- Whether one of the marks stands here that part documents: three hyphens or three dots that
fill the beginning of a line. -/
def atDocumentMark : Bool :=
  c.column = 0 && (c.rest.take 3 = ['-', '-', '-'] || c.rest.take 3 = ['.', '.', '.'])
    && atBlank (c.rest.drop 3)

/-! ### Gaps -/

/-- Go past blanks and a comment on this line. Blanks must part the comment from what stands in
front. -/
def skipInline? : Option Cursor :=
  let c' := c.skipBlanks
  if c'.rest.head? = some '#' then
    if c.blanks.isEmpty then none else some (c'.skipWhile (· ≠ '\n'))
  else some c'

/-- What is known about the rest of a line inside a gap. -/
inductive Gap where
  /-- Anything may follow. -/
  | blanks
  /-- A tab stood where only spaces can indent, so nothing but a comment may follow. -/
  | tabs
  /-- It is a comment. -/
  | comment
deriving DecidableEq, Repr

/-- Go past blanks, comments and line ends. Where tabs are not allowed they end the reading; where
they are, one in front of the column `indent` must not indent anything. -/
def skipGapFrom (tabs : Bool) (indent : Int) (gap : Gap) (p : Place) : List Char → Option Cursor
  | [] => some { p with rest := [] }
  | c :: cs =>
    if c = '\n' then skipGapFrom tabs indent .blanks p.newline cs
    else if gap = .comment || c = '#' then skipGapFrom tabs indent .comment p.mark cs
    else if c = ' ' then skipGapFrom tabs indent gap p.blank cs
    else if c = '\t' then
      if !tabs then none
      else
        let gap := if p.leading && p.column < indent then .tabs else gap
        skipGapFrom tabs indent gap p.blank cs
    else if gap = .tabs then none
    else some { p with rest := c :: cs }

/-- Go to the next token, inside a block whose content stands at column `indent` or behind. -/
def skipGap? (indent : Int) : Option Cursor :=
  skipGapFrom true indent .blanks c.toPlace c.rest

/-- Go to the next token without any tabs. -/
def skipSpaces? : Option Cursor := skipGapFrom false 0 .blanks c.toPlace c.rest

end Cursor

/-! ### Folding -/

/-- What stands between two words of a scalar. -/
structure Fold where
  /-- The blanks on the line of the first word, the last one first. -/
  spaces : List Char := []
  /-- Whether a line ended. -/
  broken : Bool := false
  /-- Whether the end of that line counts for nothing. -/
  silent : Bool := false
  /-- How many more lines ended. -/
  extra : Nat := 0
deriving DecidableEq, Repr, Inhabited

namespace Fold

variable (f : Fold)

/-- The text for it: the blanks on one line; a space for one line end, and for several the line
ends behind the first. -/
def text : List Char :=
  if !f.broken then f.spaces.reverse
  else if f.extra ≠ 0 then List.replicate f.extra '\n'
  else if f.silent then [] else [' ']

/-- A blank more. -/
def space (c : Char) : Fold := if f.broken then f else { f with spaces := c :: f.spaces }

/-- A line end more, the first one unless `again`. -/
def newline (again : Bool) : Fold :=
  if again then { f with extra := f.extra + 1 } else { f with broken := true }

@[simp] theorem text_empty : ({} : Fold).text = [] := rfl

@[simp] theorem text_newline : (({} : Fold).newline false).text = [' '] := rfl

end Fold

end SocketWatch.Yaml
