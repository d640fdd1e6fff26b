import SocketWatch.Json.Basic
/-!
# Reading records out of documents

Events and settings are records with named members. Two kinds of document carry them: JSON text,
and the layered settings of a deployment. They agree on the shape of a record and differ in how a
scalar is taken, so a `Source` says what a document offers and the records below are read from
any source.

A record is an object, or a list of the members in declaration order. In an object a known name
may occur once and unknown names are skipped. In a list members may be left off at the end where
they have a default; a list that goes on after the last member is refused by a source with
`wholeLists`.
-/

namespace SocketWatch

/-- What a kind of document offers to the reader of a record. -/
structure Source (δ : Type) where
  /-- Whether the document is the null value. -/
  isNull : δ → Bool
  /-- The document as a truth value. -/
  bool? : δ → Option Bool
  /-- The document as an unsigned number of so many bits. -/
  nat? : Nat → δ → Option Nat
  /-- The document as a text. -/
  text? : δ → Option String
  /-- The document as a list. -/
  items? : δ → Option (List δ)
  /-- The document as named members. -/
  members? : δ → Option (List (String × δ))
  /-- Whether a record given as a list must end with its last member. -/
  wholeLists : Bool

/-- The members that a document gives of a record. -/
structure Members (δ : Type) where
  /-- The given members under their names. -/
  given : List (String × δ)
  /-- Whether they were given in order, without names. -/
  inOrder : Bool

namespace Source

variable {δ α : Type} (source : Source δ)

/-- The members of a record with these names. -/
def record? (names : List String) (doc : δ) : Option (Members δ) :=
  match source.members? doc with
  | some members =>
    let given := members.filter fun m ↦ names.contains m.1
    if (given.map (·.1)).Nodup then some ⟨given, false⟩ else none
  | none => do
    let items ← source.items? doc
    if source.wholeLists && names.length < items.length then none
    else some ⟨names.zip items, true⟩

/-- A list whose items are read one by one. -/
def list? (read : δ → Option α) (doc : δ) : Option (List α) := do
  (← source.items? doc).mapM read

/-- A value or null. -/
def nullable? (read : δ → Option α) (doc : δ) : Option (Option α) :=
  if source.isNull doc then some none else (read doc).map some

end Source

namespace Members

variable {δ α : Type} (members : Members δ)

/-- The document given for a member. -/
def find? (name : String) : Option δ := (members.given.find? (·.1 = name)).map (·.2)

/-- A member that must be given. -/
def required (name : String) (read : δ → Option α) : Option α := members.find? name >>= read

/-- A member with a default. -/
def withDefault (name : String) (default : α) (read : δ → Option α) : Option α :=
  match members.find? name with
  | none => some default
  | some doc => read doc

/-- A member that may be null, and may be absent unless the members are given in order. -/
def optional (source : Source δ) (name : String) (read : δ → Option α) : Option (Option α) :=
  match members.find? name with
  | none => if members.inOrder then none else some none
  | some doc => source.nullable? read doc

end Members

/-! ### JSON as a source -/

namespace Json

/-- The document as a truth value. -/
def bool? : Json → Option Bool
  | .bool b => some b
  | _ => none

/-- The document as an integer. -/
def int? : Json → Option Int
  | .int i => some i
  | _ => none

/-- The document as an unsigned number of so many bits. -/
def nat? (bits : Nat) (j : Json) : Option Nat := (j.int?.filter (Word.fits bits)).map Int.toNat

/-- The document as a number of so many bits, of which one is the sign. -/
def signed? (bits : Nat) (j : Json) : Option Int := j.int?.filter (Word.fitsSigned bits)

/-- The document as a text. -/
def string? : Json → Option String
  | .text s => some s
  | _ => none

/-- The document as a list. -/
def items? : Json → Option (List Json)
  | .list xs => some xs
  | _ => none

/-- The document as named members. -/
def members? : Json → Option (List (String × Json))
  | .object ms => some ms
  | _ => none

/-- Whether the document is null. -/
def isNull : Json → Bool
  | .null => true
  | _ => false

/-- JSON takes every scalar as it is written and every list in full. -/
def source : Source Json where
  isNull := isNull
  bool? := bool?
  nat? := nat?
  text? := string?
  items? := items?
  members? := members?
  wholeLists := true

/-- The word of a choice: its name, or an object with that name alone and null under it. -/
def choice? : Json → Option String
  | .text s => some s
  | .object [(name, .null)] => some name
  | _ => none

end Json

end SocketWatch
