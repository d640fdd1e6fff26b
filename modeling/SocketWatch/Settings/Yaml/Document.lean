import SocketWatch.Settings.Yaml.Node
import SocketWatch.Settings.Yaml.Tokens
/-!
# Documents

The nodes of a text, read off its tokens. What may stand where is a grammar with one function for
each of its rules: nodes with their names and tags, sequences and mappings in block form and in
flow form, documents with what is declared in front of them.

Names of nodes and handles of tags are known to the end of their document. A name is given before
the node behind it is read, so a node can mention itself; it then stands for nothing there.

Of three rules that go on to one another at least one reads a token, which bounds how deep they
are nested by three times the number of tokens.
-/

namespace SocketWatch.Yaml

/-! ### Reading tokens -/

/-- The tokens that are left, and what is known in their document. -/
structure Reading where
  /-- The tokens. -/
  tokens : List Token
  /-- What the handles of tags stand for. -/
  handles : List (String × String) := []
  /-- The numbers of the nodes with names, the last one first. -/
  names : List (String × Nat) := []
  /-- The nodes with a number. -/
  nodes : List (Nat × Node) := []
  /-- How many nodes have a number. -/
  count : Nat := 0

/-- Something that is read off tokens. -/
abbrev Reader := StateT Reading Option

namespace Reader

/-- The next token. -/
def peek : Reader (Option Token) := do return (← get).tokens.head?

/-- Go past a token. -/
def skip : Reader Unit := modify fun r ↦ { r with tokens := r.tokens.drop 1 }

/-- Go past a token that has to stand here. -/
def expect (t : Token) : Reader Unit := do
  if (← peek) = some t then skip else failure

/-- Whether one of some tokens stands here. -/
def atOne (ts : List Token) : Reader Bool := do return (← peek).any ts.contains

/-! ### Properties of nodes -/

/-- The number of the node that is about to get a name. -/
def name (name : String) : Reader Nat := do
  let number := (← get).count
  modify fun r ↦ { r with names := (name, number) :: r.names, count := number + 1 }
  return number

/-- Keep a node under its number. -/
def keep (number : Nat) (x : Node) : Reader Unit :=
  modify fun r ↦ { r with nodes := (number, x) :: r.nodes }

/-- The node with a name, which is bad as long as it is not complete. -/
def named (name : String) : Reader Node := do
  let r ← get
  match r.names.lookup name with
  | some number => return (r.nodes.lookup number).getD .bad
  | none => failure

/-- A tag with its handle resolved. -/
def resolve (tag : Tag) : Reader Tag := do
  match tag.resolve? (← get).handles with
  | some tag => return tag
  | none => failure

/-- The name of a node, where there is one, as a number. -/
def anchor? : Reader (Option Nat) := do
  match ← peek with
  | some (.anchor s) => skip; return some (← name s)
  | _ => return none

/-- The tag of a node, where there is one. -/
def tag? : Reader (Option Tag) := do
  match ← peek with
  | some (.tag tag) => skip; return some (← resolve tag)
  | _ => return none

/-- The name and the tag of a node, in either order. -/
def properties : Reader (Option Nat × Option Tag) := do
  match ← anchor? with
  | some number => return (some number, ← tag?)
  | none =>
    match ← tag? with
    | some tag => return (← anchor?, some tag)
    | none => return (none, none)

/-- The mapping of nodes that are keys and values in turn. -/
def mapping (xs : List Node) : Reader Node :=
  match Node.ofNodes? xs with
  | some x => return x
  | none => failure

/-! ### Nodes -/

mutual

/-- A node. Block collections are read where `block`, and sequences that are indented no further
than the key in front where `unindented`. -/
def node (block unindented : Bool) : Nat → Reader Node
  | 0 => failure
  | steps + 1 => do
    if let some (.alias s) ← peek then
      skip
      named s
    else
      let (number, tag) ← properties
      let x ← content block unindented number.isSome tag steps
      if let some number := number then keep number x
      return x

/-- A node without its properties. Behind them there may be none. -/
def content (block unindented isNamed : Bool) (tag : Option Tag) : Nat → Reader Node
  | 0 => failure
  | steps + 1 => do
    match ← peek with
    | some (.scalar isPlain s) => skip; return .ofScalar isPlain tag s
    | some .flowSequence => skip; return .list (← flowItems true steps)
    | some .flowMapping => skip; mapping (← flowMembers true steps)
    | t =>
      if unindented && t = some .blockEntry then return .list (← unindentedItems steps)
      else if block && t = some .blockSequence then skip; return .list (← blockItems steps)
      else if block && t = some .blockMapping then skip; mapping (← blockMembers steps)
      else if isNamed || tag.isSome then return .ofScalar true tag ""
      else failure

/-- The items of a sequence in block form. -/
def blockItems : Nat → Reader (List Node)
  | 0 => failure
  | steps + 1 => do
    if (← peek) = some .blockEnd then
      skip
      return []
    else
      expect .blockEntry
      let x ← if ← atOne [.blockEntry, .blockEnd] then pure .null else node true false steps
      return x :: (← blockItems steps)

/-- The items of a sequence that is indented no further than the key in front. -/
def unindentedItems : Nat → Reader (List Node)
  | 0 => failure
  | steps + 1 => do
    if (← peek) = some .blockEntry then
      skip
      let x ← if ← atOne [.blockEntry, .key, .value, .blockEnd] then pure .null
        else node true false steps
      return x :: (← unindentedItems steps)
    else return []

/-- The keys and values of a mapping in block form, in turn. -/
def blockMembers : Nat → Reader (List Node)
  | 0 => failure
  | steps + 1 => do
    match ← peek with
    | some .blockEnd => skip; return []
    | some .value =>
      let v ← blockValue steps
      return .null :: v :: (← blockMembers steps)
    | some .key =>
      skip
      let k ← if ← atOne [.key, .value, .blockEnd] then pure .null else node true true steps
      let v ← blockValue steps
      return k :: v :: (← blockMembers steps)
    | _ => failure

/-- The value for a key of a mapping in block form. -/
def blockValue : Nat → Reader Node
  | 0 => failure
  | steps + 1 => do
    if (← peek) = some .value then
      skip
      if ← atOne [.key, .value, .blockEnd] then return .null else node true true steps
    else return .null

/-- The items of a sequence in flow form, from the first one or from one further on. -/
def flowItems (first : Bool) : Nat → Reader (List Node)
  | 0 => failure
  | steps + 1 => do
    if (← peek) = some .flowSequenceEnd then
      skip
      return []
    else
      if !first then expect .flowEntry
      match ← peek with
      | some .flowSequenceEnd => skip; return []
      | some .key =>
        skip
        let x ← pair steps
        return x :: (← flowItems false steps)
      | _ =>
        let x ← node false false steps
        return x :: (← flowItems false steps)

/-- A mapping of one member that is an item of a sequence in flow form. Where there is no key, the
mark behind it goes with it. -/
def pair : Nat → Reader Node
  | 0 => failure
  | steps + 1 => do
    let k ← if ← atOne [.value, .flowEntry, .flowSequenceEnd] then do skip; pure .null
      else node false false steps
    let v ← flowValue .flowSequenceEnd steps
    mapping [k, v]

/-- The keys and values of a mapping in flow form, in turn, from the first one or from one further
on. A key may stand alone. -/
def flowMembers (first : Bool) : Nat → Reader (List Node)
  | 0 => failure
  | steps + 1 => do
    if (← peek) = some .flowMappingEnd then
      skip
      return []
    else
      if !first then expect .flowEntry
      match ← peek with
      | some .flowMappingEnd => skip; return []
      | some .value =>
        let v ← flowValue .flowMappingEnd steps
        return .null :: v :: (← flowMembers false steps)
      | some .key =>
        skip
        let k ← if ← atOne [.value, .flowEntry, .flowMappingEnd] then pure .null
          else node false false steps
        let v ← flowValue .flowMappingEnd steps
        return k :: v :: (← flowMembers false steps)
      | _ =>
        let k ← node false false steps
        return k :: .null :: (← flowMembers false steps)

/-- The value for a key in a collection in flow form that ends with a token. -/
def flowValue (last : Token) : Nat → Reader Node
  | 0 => failure
  | steps + 1 => do
    if (← peek) = some .value then
      skip
      if ← atOne [.flowEntry, last] then return .null else node false false steps
    else return .null

end

/-! ### Documents -/

/-- What stands in front of a document that is marked. Of the handles that are declared only the
last one counts, and only if no version stands behind it. -/
def directives (hasVersion : Bool) : Nat → Reader Unit
  | 0 => failure
  | steps + 1 => do
    match ← peek with
    | some .version =>
      if hasVersion then failure
      skip
      modify fun r ↦ { r with handles := [] }
      directives true steps
    | some (.handle s beginning) =>
      skip
      modify fun r ↦ { r with handles := [(s, beginning)] }
      directives hasVersion steps
    | _ => return ()

/-- Whether a directive stands here. -/
def atDirective : Reader Bool := do
  match ← peek with
  | some .version => return true
  | some (.handle _ _) => return true
  | _ => return false

/-- The node of a document that is marked. -/
def markedDocument (steps : Nat) : Reader Node := do
  directives false steps
  expect .documentStart
  let isEmpty := (← peek).isNone || (← atDirective) || (← atOne [.documentStart, .documentEnd])
  if isEmpty then return .null else node true false steps

/-- The nodes of the documents that are left. The first one, and one behind the mark of an end,
need no mark. Only behind such a mark may directives stand. -/
def documents (marked : Bool) : Nat → Reader (List Node)
  | 0 => failure
  | steps + 1 => do
    match ← peek with
    | none => return []
    | some .documentEnd => skip; documents marked steps
    | some t =>
      let x ← if marked || (← atDirective) || t = .documentStart then markedDocument steps
        else node true false steps
      modify fun r ↦ { tokens := r.tokens }
      if (← peek) = some .documentEnd then
        skip
        return x :: (← documents false steps)
      else if ← atDirective then failure
      else return x :: (← documents true steps)

end Reader

/-- The documents of a text. -/
def documents? (text : String) : Option (List Setting) := do
  let tokens ← tokens? text
  let nodes ← Reader.documents false (3 * tokens.length + 4) |>.run' { tokens }
  nodes.mapM Node.setting?

end SocketWatch.Yaml
