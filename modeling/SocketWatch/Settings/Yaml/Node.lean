import SocketWatch.Settings.Value
import SocketWatch.Settings.Yaml.Tag
/-!
# Nodes

What a document of a YAML text says is a tree of nodes. A scalar is a node of a kind that is read
off its text or given by its tag, and only a plain scalar is ever more than a text. Where a tag
asks for a kind that the text cannot be, the node is `bad`: it counts for nothing as a value, and
cannot be a key.

A document that holds settings is a `Setting` without anything of this: its keys are texts.
-/

namespace SocketWatch.Yaml

/-- A node of a document. -/
inductive Node where
  /-- A scalar that is not of the kind it should be. -/
  | bad
  /-- No value. -/
  | null
  /-- A truth value. -/
  | bool (value : Bool)
  /-- A whole number of 64 bits with a sign. -/
  | int (value : Int)
  /-- Another number, as it is written. -/
  | real (text : String)
  /-- A text. -/
  | text (value : String)
  /-- A sequence. -/
  | list (items : List Node)
  /-- A mapping. -/
  | table (members : List (Node × Node))
deriving Inhabited, Repr

namespace Node

/-! ### Scalars -/

/-- The words for infinite numbers and for what is no number. -/
def wordsOfReals : List String :=
  [".inf", ".Inf", ".INF", "+.inf", "+.Inf", "+.INF", "-.inf", "-.Inf", "-.INF", ".nan", "NaN",
    ".NAN"]

/-- Whether a text is a number. -/
def isReal (s : String) : Bool := wordsOfReals.contains s || (Binary64.parse? s.toList).isSome

/-- Whether a text stands for no value. -/
def isNullWord (s : String) : Bool := s = "~" || s = "null"

/-- The truth value a text stands for. -/
def boolWord? (s : String) : Option Bool :=
  if s = "true" then some true else if s = "false" then some false else none

/-- The whole number a text stands for, in decimal, or in hexadecimal or octal digits behind `0x`
and `0o`. -/
def whole? : List Char → Option Int
  | '0' :: 'x' :: cs => Numeral.int64? 16 cs
  | '0' :: 'o' :: cs => Numeral.int64? 8 cs
  | '+' :: cs => Numeral.int64? 10 cs
  | cs => Numeral.int64? 10 cs

/-- The node a plain scalar without a tag is. -/
def ofPlain (s : String) : Node :=
  match whole? s.toList with
  | some i => .int i
  | none =>
    if isNullWord s then .null
    else if let some b := boolWord? s then .bool b
    else if isReal s then .real s
    else .text s

/-- The node a plain scalar with a tag is. -/
def ofTagged (tag : Tag) (s : String) : Node :=
  if tag.handle ≠ Tag.common then .text s
  else match tag.suffix with
    | "bool" => (boolWord? s).elim .bad .bool
    | "int" => (Numeral.int64? 10 s.toList).elim .bad .int
    | "float" => if isReal s then .real s else .bad
    | "null" => if isNullWord s then .null else .bad
    | _ => .text s

/-- The node a scalar is. -/
def ofScalar (isPlain : Bool) (tag : Option Tag) (s : String) : Node :=
  if isPlain then tag.elim (ofPlain s) (ofTagged · s) else .text s

/-! ### Mappings -/

mutual

/-- Whether two nodes are alike. -/
def alike : Node → Node → Bool
  | .bad, .bad => true
  | .null, .null => true
  | .bool a, .bool b => a = b
  | .int i, .int j => i = j
  | .real s, .real t => s = t
  | .text s, .text t => s = t
  | .list xs, .list ys => alikeItems xs ys
  | .table ms, .table ns => alikeMembers ms ns
  | _, _ => false

/-- Whether the items of two sequences are alike. -/
def alikeItems : List Node → List Node → Bool
  | [], [] => true
  | x :: xs, y :: ys => x.alike y && alikeItems xs ys
  | _, _ => false

/-- Whether the members of two mappings are alike and in the same order. -/
def alikeMembers : List (Node × Node) → List (Node × Node) → Bool
  | [], [] => true
  | (k, v) :: ms, (k', v') :: ns => k.alike k' && v.alike v' && alikeMembers ms ns
  | _, _ => false

end

/-- Whether this is a scalar that is not of the kind it should be. -/
def isBad : Node → Bool
  | .bad => true
  | _ => false

/-- A mapping while its nodes come in, keys and values in turn. -/
structure Draft where
  /-- Its members, the last one first. -/
  members : List (Node × Node) := []
  /-- The key whose value is still to come. -/
  key : Option Node := none
deriving Inhabited

namespace Draft

variable (d : Draft)

/-- The next node of a mapping: a value where there is a key, and else a key unless it is bad. No
key occurs twice. -/
def add? (x : Node) : Option Draft :=
  match d.key with
  | none => some (if x.isBad then d else { d with key := some x })
  | some k =>
    if d.members.any (·.1.alike k) then none else some { members := (k, x) :: d.members }

end Draft

/-- The mapping of nodes that are keys and values in turn. -/
def ofNodes? (xs : List Node) : Option Node :=
  (xs.foldlM Draft.add? {}).map fun d ↦ .table d.members.reverse

/-! ### Settings -/

/-- The name a key gives to a member. -/
def name? : Node → Option String
  | .bool b => some (if b then "true" else "false")
  | .int i => some (Numeral.intText i)
  | .real s => some s
  | .text s => some s
  | _ => none

mutual

/-- The setting a node is. A number that can be told only in the words of these documents is
none. -/
def setting? : Node → Option Setting
  | .bad => some .null
  | .null => some .null
  | .bool b => some (.bool b)
  | .int i => some (.int i)
  | .real s => (Binary64.parse? s.toList).map .real
  | .text s => some (.text s)
  | .list xs => (settings? xs).map .list
  | .table ms => (memberSettings? ms).map .table

/-- The settings that nodes are. -/
def settings? : List Node → Option (List Setting)
  | [] => some []
  | x :: xs => do
    let v ← x.setting?
    let vs ← settings? xs
    some (v :: vs)

/-- The settings that members are. Of two keys with one name the second counts. -/
def memberSettings? : List (Node × Node) → Option (List (String × Setting))
  | [] => some []
  | (k, v) :: ms => do
    let name ← k.name?
    let v ← v.setting?
    let rest ← memberSettings? ms
    some (if rest.any (·.1 = name) then rest else (name, v) :: rest)

end

end Node

end SocketWatch.Yaml
