import SocketWatch.Text.Numeral
/-!
# JSON documents

The tree of a JSON document, with what its readers need to know and no more. Numbers are split
into those that are a 64-bit integer as written, signed or unsigned, and all others, since no
field of an event or a setting holds a fraction. Members of an object stay in the order and
number in which they are written: whether a repeated name is a mistake depends on the reader.

`garbled` stands for a part whose extent is clear but which has no value: a string with a lone
surrogate or with bytes that are no text, or an object with such a name. It may stand where
nobody looks, under a name no reader asks for, and is refused anywhere else.
-/

namespace SocketWatch

/-- A JSON document. -/
inductive Json where
  /-- The null value. -/
  | null
  /-- A truth value. -/
  | bool (value : Bool)
  /-- A number without fraction or exponent that a 64-bit integer holds. -/
  | int (value : Int)
  /-- Any other number. -/
  | real
  /-- A string. -/
  | text (value : String)
  /-- A part that is delimited but denotes nothing. -/
  | garbled
  /-- An array. -/
  | list (items : List Json)
  /-- An object, its members as written. -/
  | object (members : List (String × Json))
deriving Inhabited, Repr

namespace Json

/-- An unsigned number. -/
def nat (n : Nat) : Json := .int n

/-- A value or null. -/
def orNull {α : Type} (f : α → Json) : Option α → Json
  | none => .null
  | some a => f a

/-- The member of an object under a name, the last one where the name is repeated. -/
def member? (name : String) : Json → Option Json
  | .object members => (members.reverse.find? (·.1 = name)).map (·.2)
  | _ => none

end Json

end SocketWatch
