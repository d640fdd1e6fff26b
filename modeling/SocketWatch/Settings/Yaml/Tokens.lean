import SocketWatch.Settings.Yaml.Block
import SocketWatch.Settings.Yaml.Layout
import SocketWatch.Settings.Yaml.Plain
import SocketWatch.Settings.Yaml.Quoted
/-!
# The tokens of a text

A token is known by its first characters and by where it stands. Below there is one step for each
kind of token, `step?` chooses among them, and `tokens?` makes one step after the other. A step
reads a character at least, so there are no more steps than characters.
-/

namespace SocketWatch.Yaml

namespace Layout

variable (l : Layout)

/-! ### Scalars -/

/-- Read a plain scalar. -/
def plain? : Option Layout := do
  let l := (← l.startKey?).dropOpen
  let (text, cursor) ← l.cursor.plain? l.inFlow (l.indent + 1)
  some { l.push (.scalar true text) with cursor, keyAllowed := cursor.leading }

/-- Read a quoted scalar. A colon right behind it makes it a key of a flow mapping. -/
def quoted? : Option Layout := do
  let l ← l.startKey?
  let (text, cursor) ← l.cursor.quoted? l.indent
  let behind ← cursor.skipInline?
  if !mayEndQuoted l.inFlow l.cursor behind then none
  let l ← { l with cursor := behind, keyAllowed := false }.skipGap?
  some { l.push (.scalar false text) with adjacentAt := some l.cursor.index }

/-- Read a block scalar. -/
def block? : Option Layout := do
  let l := (← l.startKey?).dropOpen
  let (text, cursor) ← l.cursor.block? l.indent
  some { l.push (.scalar false text) with cursor, keyAllowed := true }

/-! ### Properties of nodes -/

/-- Read a name and its mark. -/
def name? (token : String → Token) : Option Layout := do
  let l ← l.startKey?
  let (name, cursor) ← l.cursor.anchor?
  some { l.push (token name) with cursor, keyAllowed := false }

/-- Read a tag. -/
def tag? : Option Layout := do
  let l ← l.startKey?
  let (tag, cursor) ← l.cursor.tag? l.inFlow
  some { l.push (.tag tag) with cursor, keyAllowed := false }

/-! ### Documents -/

/-- End all blocks, and allow no key on the line. -/
def endBlocks? : Option Layout :=
  (l.unroll (-1)).dropKey?.map ({ · with keyAllowed := false })

/-- Read a directive. -/
def directive? : Option Layout := do
  let l ← l.endBlocks?
  let (token, cursor) ← l.cursor.directive?
  some { l.push token with cursor }

/-- Read one of the marks that part documents. Behind the mark of an end nothing may stand on the
line. -/
def documentMark? : Option Layout := do
  let l' := (← l.endBlocks?).past 3
  if l.cursor.rest.head? = some '-' then some (l'.push .documentStart)
  else
    let behind ← l'.skipInline?
    if atLineEnd behind.cursor.rest then some (behind.push .documentEnd) else none

/-! ### Flow collections -/

/-- Read the beginning of a flow collection, which may be a key. -/
def flowStart? (t : Token) : Option Layout := do
  let l ← (← l.startKey?).widen.enterFlow?
  let inMapping := l.inMapping || t = .flowMapping
  let l ← { l.past 1 with keyAllowed := true, inMapping }.skipInline?
  some (l.push t)

/-- Read the end of a flow collection. In another collection, a colon right behind it makes it a
key. -/
def flowEnd? (t : Token) : Option Layout := do
  let l := (← l.dropKey?).leaveFlow.endPair
  let l ← { l.past 1 with keyAllowed := false }.skipInline?
  some { l.push t with
    adjacentAt := if l.inFlow then some l.cursor.index else l.adjacentAt }

/-- Read the mark between two items. -/
def flowEntry? : Option Layout := do
  let l := (← l.dropKey?).endPair
  let l ← { l.past 1 with keyAllowed := true }.skipInline?
  some (l.push .flowEntry)

/-! ### Blocks -/

/-- Whether the mark of an item stands here. -/
def atHyphen : List Char → Bool
  | '-' :: cs => atBlank cs
  | _ => false

/-- Read the mark of an item of a sequence. An item on the same line may be a sequence itself, but
not behind a tab. -/
def blockEntry? : Option Layout := do
  if l.inFlow || !l.keyAllowed then none
  let blanks := (l.past 1).cursor.blanks
  let l ← ((l.past 1).openBlock l.cursor.column l.tokens.size .blockSequence).skipInline?
  let rest := l.cursor.rest
  if blanks.contains '\t' && atHyphen rest then none
  let l := if rest.head? = some '\n' || atFlowMark rest then l.widen else l
  let l ← l.dropKey?
  some { l.push .blockEntry with keyAllowed := true }

/-- Read the mark of a key. No tab stands between the two. -/
def key? : Option Layout := do
  if !l.inFlow && !l.keyAllowed then none
  let l' ← (l.openBlock l.cursor.column l.tokens.size .blockMapping).dropKey?
  let l' := { l'.past 1 with inMapping := l.inFlow || l.inMapping, keyAllowed := !l.inFlow }
  let cursor ← l'.cursor.skipSpaces?
  if cursor.index = l'.cursor.index then none
  some { l'.push .key with cursor }

/-- Read what is behind the mark of a value: a tab alone does not part it from a word. -/
def afterColon? : Option Layout :=
  let blanks := l.cursor.blanks
  if blanks.head? = some '\t' then do
    let l ← l.skipInline?
    if !blanks.contains ' ' && l.cursor.rest.head?.any isNameChar then none else some l
  else some l

/-- Read the mark of a value. Where a key may have begun, one has begun. In a flow sequence the two
make a pair. -/
def value? : Option Layout := do
  let colon := l.cursor
  let l ← { l.past 1 with inPair := l.inFlow && !l.inMapping }.afterColon?
  match l.keyStart with
  | some k =>
    if l.inPair && k.place.line < colon.line then none
    let l := l.insert k.number .key
    let l := if l.inPair then l.insert k.number .flowMapping else l
    let l := (l.openBlock k.place.column k.number .blockMapping).widen
    some { l.push .value with keyStart := none, keyAllowed := false }
  | none =>
    if !l.inFlow && !l.keyAllowed then none
    let l := if l.inPair then l.push .flowMapping else l
    let l := (l.openBlock colon.column l.tokens.size .blockMapping).widen
    some { l.push .value with keyAllowed := !l.inFlow }

/-! ### Steps -/

/-- Whether a colon marks a value, `cs` being what follows it. -/
def atValue (cs : List Char) : Bool :=
  atBlank cs || (l.inFlow && (atFlowMark cs || l.adjacentAt = some l.cursor.index))

/-- Go to the next token, and end the blocks it stands in front of. -/
def advance? : Option Layout := do
  let l ← (← l.skipGap?).dropStaleKey?
  some (l.unroll l.cursor.column)

/-- Read the token that stands here. -/
def step? : Option Layout :=
  match l.cursor.rest with
  | [] => none
  | c :: cs =>
    if l.cursor.column = 0 && c = '%' then l.directive?
    else if l.cursor.atDocumentMark then l.documentMark?
    else if l.cursor.column < l.indent then none
    else match c with
      | '[' => l.flowStart? .flowSequence
      | '\x7b' => l.flowStart? .flowMapping
      | ']' => l.flowEnd? .flowSequenceEnd
      | '\x7d' => l.flowEnd? .flowMappingEnd
      | ',' => l.flowEntry?
      | '-' => if atBlank cs then l.blockEntry? else l.plain?
      | '?' => if atBlank cs then l.key? else l.plain?
      | ':' => if l.atValue cs then l.value? else l.plain?
      | '*' => l.name? .alias
      | '&' => l.name? .anchor
      | '!' => l.tag?
      | '|' => if l.inFlow then l.plain? else l.block?
      | '>' => if l.inFlow then l.plain? else l.block?
      | '\'' => l.quoted?
      | '"' => l.quoted?
      | '%' => none
      | '@' => none
      | '\x60' => none
      | _ => l.plain?

/-- Read the tokens that are left in at most so many steps. -/
def finish? (l : Layout) : Nat → Option (List Token)
  | 0 => none
  | steps + 1 => do
    let l ← l.advance?
    if l.cursor.rest.isEmpty then
      (l.endBlocks?).map (·.tokens.toList)
    else (← l.step?).finish? steps

end Layout

/-- The tokens of a text. -/
def tokens? (text : String) : Option (List Token) :=
  (Layout.ofText text).finish? (text.length + 1)

end SocketWatch.Yaml
