import SocketWatch.Settings.Yaml.Cursor
/-!
# Plain scalars

A plain scalar is words without quotes. Nothing marks its end, so the end is read off what follows
a word: a colon with a blank behind it, a comment, a line that stands too far to the left, and in a
flow collection every mark that gives the collection its structure. Blanks between two words of a
line are kept, line ends are folded.
-/

namespace SocketWatch.Yaml

/-- Whether a word of a plain scalar goes on here, in a flow collection or outside of one. -/
def atWord (flow : Bool) : List Char → Bool
  | [] => false
  | c :: cs =>
    !isBlank c && c ≠ '\n' && !(flow && isFlowMark c)
      && !(c = ':' && (atBlank cs || (flow && atFlowMark cs)))

/-- What is known between two characters of a plain scalar. -/
structure Between where
  /-- Whether no blank and no line end is between them. -/
  inWord : Bool := false
  /-- The text for what is between them. -/
  fold : Fold := {}
  /-- What may follow on this line. -/
  gap : Cursor.Gap := .blanks
deriving DecidableEq, Repr

namespace Between

variable (b : Between)

/-- A line ended at a place. -/
def newline (p : Place) : Between := { fold := b.fold.newline p.leading }

/-- A blank stood at a place. Of the blanks that lead a line a tab may not stand in front of the
column `least`, unless nothing but a comment follows. -/
def blank (least : Int) (p : Place) (c : Char) : Between where
  fold := if p.leading then b.fold else b.fold.space c
  gap := if c = '\t' && p.leading && p.column < least then .tabs else b.gap

/-- Whether a character belongs to a comment on a line that nothing else may stand on. -/
def isComment (c : Char) : Bool := b.gap = .comment || (b.gap = .tabs && c = '#')

/-- A character of a comment stood there. -/
def comment : Between := { fold := b.fold, gap := .comment }

end Between

/-- The characters of a plain scalar whose further lines stand at column `least` or behind, and
what follows the blanks behind it. -/
def plainFrom (flow : Bool) (least : Int) (b : Between) (p : Place) :
    List Char → Option (List Char × Cursor)
  | [] => some ([], { p with rest := [] })
  | c :: cs =>
    let here : Cursor := { p with rest := c :: cs }
    if c = '\n' then plainFrom flow least (b.newline p) p.newline cs
    else if b.isComment c then plainFrom flow least b.comment p.mark cs
    else if isBlank c then plainFrom flow least (b.blank least p c) p.blank cs
    else if b.gap = .tabs then none
    else if !b.inWord && ((!flow && p.column < least) || here.atDocumentMark || c = '#') then
      some ([], here)
    else if !b.inWord && flow && c = '-' && atFlowMark cs then none
    else if atWord flow (c :: cs) then
      (plainFrom flow least { inWord := true } p.mark cs).map fun (text, rest) ↦
        (b.fold.text ++ c :: text, rest)
    else some ([], here)

/-- Read a plain scalar. In a flow collection its first line stands at column `least` or behind as
well, and it cannot be a hyphen alone. -/
def Cursor.plain? (c : Cursor) (flow : Bool) (least : Int) : Option (String × Cursor) :=
  let isHyphen := c.rest.head? = some '-' && atFlowMark (c.rest.drop 1)
  if flow && (c.column < least || isHyphen) then none
  else
    (plainFrom flow least { inWord := true } c.toPlace c.rest).map fun (text, rest) ↦
      (String.ofList text, rest)

end SocketWatch.Yaml
