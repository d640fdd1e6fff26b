import SocketWatch.Settings.Yaml.Cursor
import SocketWatch.Text.Numeral
/-!
# Block scalars

A block scalar is the lines below its header that are indented alike, without their indentation.
Its header says three things: whether the ends of its lines are kept or folded, how far the lines
are indented where that is not read off the first of them, and what becomes of the line ends behind
the last line.
-/

namespace SocketWatch.Yaml.Block

/-! ### Headers -/

/-- What becomes of the line ends behind the last line. -/
inductive Chomp where
  /-- None is kept. -/
  | strip
  /-- One is kept. -/
  | clip
  /-- All are kept. -/
  | keep
deriving DecidableEq, Repr

/-- The sign for a way to chomp. -/
def Chomp.ofSign? : Char → Option Chomp
  | '-' => some .strip
  | '+' => some .keep
  | _ => none

/-- The header of a block scalar. -/
structure Header where
  /-- Whether line ends are folded. -/
  folded : Bool
  /-- What becomes of the line ends behind the last line. -/
  chomp : Chomp := .clip
  /-- How much further than their surroundings the lines are indented, if the header says so. -/
  increment : Option Nat := none
deriving DecidableEq, Repr

namespace Header

variable (h : Header)

/-- The header with an increment, if a digit begins the text. -/
def withIncrement (cs : List Char) : Option (Header × List Char) :=
  match cs with
  | [] => some (h, [])
  | c :: rest =>
    if !c.isDigit then some (h, cs)
    else if c = '0' then none
    else some ({ h with increment := Numeral.digit? 10 c }, rest)

/-- The header with a way to chomp, if the sign for one begins the text. -/
def withChomp (cs : List Char) : Header × List Char :=
  match cs.head?.bind Chomp.ofSign? with
  | some chomp => ({ h with chomp }, cs.drop 1)
  | none => (h, cs)

/-- Read the two parts of a header, in either order. -/
def read? (cs : List Char) : Option (Header × List Char) :=
  let (h', rest) := h.withChomp cs
  if rest.length < cs.length then h'.withIncrement rest
  else (h.withIncrement cs).map fun (h, rest) ↦
    if rest.length < cs.length then h.withChomp rest else (h, rest)

end Header

/-! ### Lines -/

/-- Go past empty lines, and past the spaces in front of the next one as long as they stand in
front of the column `limit`. Also the number of the empty lines and the widest indentation. -/
def skipEmpty (limit : Option Nat) (breaks width : Nat) (p : Place) :
    List Char → Nat × Nat × Cursor
  | [] => (breaks, max width p.column, { p with rest := [] })
  | c :: cs =>
    if c = '\n' then skipEmpty limit (breaks + 1) (max width p.column) p.newline cs
    else if c = ' ' && limit.all (p.column < ·) then skipEmpty limit breaks width p.blank cs
    else (breaks, max width p.column, { p with rest := c :: cs })

/-- What stands in front of a line of a block scalar. -/
structure Lead where
  /-- Whether there is a line with content in front. -/
  broken : Bool := false
  /-- Whether that line began with a blank. -/
  indented : Bool := false
  /-- How many empty lines are between them. -/
  empty : Nat := 0
deriving DecidableEq, Repr

namespace Lead

variable (l : Lead)

/-- The end of the line in front, where there is one. -/
def lineEnd : List Char := if l.broken then ['\n'] else []

/-- The ends of the empty lines. -/
def emptyLines : List Char := List.replicate l.empty '\n'

/-- The text in front of a line that begins with a character. Only between two lines that begin
with no blank are line ends folded. -/
def text (folded : Bool) (first : Char) : List Char :=
  if folded && l.broken && !l.indented && !isBlank first then
    if l.empty = 0 then [' '] else l.emptyLines
  else l.lineEnd ++ l.emptyLines

/-- The text behind the last line. A text that ends on a line of the scalar ends that line. -/
def tail (chomp : Chomp) (endsInLine : Bool) : List Char :=
  match chomp with
  | .strip => []
  | .clip => l.lineEnd ++ if endsInLine then ['\n'] else []
  | .keep => l.lineEnd ++ (if endsInLine then ['\n'] else []) ++ l.emptyLines

end Lead

/-- The characters of the lines at a column, and what follows them. `inLine` tells whether the
place is behind the beginning of such a line. -/
def linesFrom (h : Header) (indent : Nat) (inLine : Bool) (l : Lead) (p : Place) :
    List Char → List Char × Cursor
  | [] => (l.tail h.chomp (max indent 1 ≤ p.column), { p with rest := [] })
  | c :: cs =>
    if c = '\n' then
      if inLine then linesFrom h indent false { l with broken := true } p.newline cs
      else linesFrom h indent false { l with empty := l.empty + 1 } p.newline cs
    else if inLine then
      let (text, rest) := linesFrom h indent true l p.mark cs
      (c :: text, rest)
    else if c = ' ' && p.column < indent then linesFrom h indent false l p.blank cs
    else if p.column = indent then
      let (text, rest) := linesFrom h indent true { indented := isBlank c } p.mark cs
      (l.text h.folded c ++ c :: text, rest)
    else (l.tail h.chomp false, { p with rest := c :: cs })

/-- The text of a scalar without any line: of the line ends behind its header the first one, or
those of the empty lines. -/
def emptyText (chomp : Chomp) (empty : Nat) : List Char :=
  match chomp with
  | .strip => []
  | .clip => ['\n']
  | .keep => List.replicate (max empty 1) '\n'

end SocketWatch.Yaml.Block

namespace SocketWatch.Yaml

/-- Read a block scalar inside a block at column `indent`. -/
def Cursor.block? (c : Cursor) (indent : Int) : Option (String × Cursor) := do
  let sign ← c.rest.head?
  let (h, rest) ← Block.Header.read? { folded := sign = '>' } (c.rest.drop 1)
  let behind ← (c.upTo rest).skipInline?
  if !atLineEnd behind.rest then none
  match behind.rest with
  | [] => some ("", behind)
  | _ :: below =>
    if below.head? = some '\t' then none
    let p := behind.toPlace.newline
    let fixed := h.increment.map fun n ↦ (max indent 0).toNat + n
    let (empty, width, first) := Block.skipEmpty fixed 0 0 p below
    let column := fixed.getD (max width (indent + 1).toNat)
    if first.rest.isEmpty then some (String.ofList (Block.emptyText h.chomp empty), first)
    else if first.column < column && indent < first.column then none
    else
      let (text, rest) :=
        Block.linesFrom h column false { empty } first.toPlace first.rest
      some (String.ofList text, rest)

end SocketWatch.Yaml
