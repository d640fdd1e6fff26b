import SocketWatch.Binary64
import SocketWatch.Json.Record
import SocketWatch.Settings.Path
import SocketWatch.Text.Ascii
/-!
# Values of settings

A deployment writes its settings in a file and in its environment. Both give a tree of loosely
typed values: what reads like a number may be meant as a text and the other way round. A field
therefore takes every scalar that can be turned into what it wants.

Layers of settings are laid over one another: `putAt?` puts a value at the end of a path. A table
is merged into what is there name by name, whatever letters the names are written in; anything
else replaces what is there. A value that stands in the way of a path makes room for a table or a
list.
-/

namespace SocketWatch

/-- A value of a setting. -/
inductive Setting where
  /-- No value. -/
  | null
  /-- A truth value. -/
  | bool (value : Bool)
  /-- A whole number of 64 bits with a sign. -/
  | int (value : Int)
  /-- Another number. -/
  | real (value : Binary64)
  /-- A text. -/
  | text (value : String)
  /-- A list. -/
  | list (items : List Setting)
  /-- Values under names. -/
  | table (members : List (String × Setting))
deriving Inhabited

namespace Setting

/-! ### Scalars -/

/-- The words for true. -/
def trueWords : List String := ["true", "on", "yes"]

/-- The words for false. -/
def falseWords : List String := ["false", "off", "no"]

/-- The value as a truth value: a number is true unless it is zero. -/
def bool? : Setting → Option Bool
  | bool b => some b
  | int i => some (i ≠ 0)
  | real r => some !r.isZero
  | text s =>
    let word := Ascii.lower s
    if word = "1" || trueWords.contains word then some true
    else if word = "0" || falseWords.contains word then some false
    else none
  | _ => none

/-- The value as an unsigned number of 64 bits: a truth value counts as one or zero, and a number
that is not whole is rounded. -/
def word? : Setting → Option Nat
  | bool b => some b.toNat
  | int i => if 0 ≤ i then some i.toNat else none
  | real r => some r.toWord
  | text s =>
    let word := Ascii.lower s
    if trueWords.contains word then some 1
    else if falseWords.contains word then some 0
    else Numeral.word? 10 64 s.toList
  | _ => none

/-- The value as an unsigned number of so many bits. -/
def nat? (bits : Nat) (v : Setting) : Option Nat := v.word?.filter (· < Word.count bits)

/-- The value as a text. -/
def text? : Setting → Option String
  | bool b => some (if b then "true" else "false")
  | int i => some (Numeral.intText i)
  | real r => some r.text
  | text s => some s
  | _ => none

/-! ### Structure -/

/-- Whether there is no value. -/
def isNull : Setting → Bool
  | null => true
  | _ => false

/-- The items of a list. -/
def items? : Setting → Option (List Setting)
  | list xs => some xs
  | _ => none

/-- The members of a table. -/
def members? : Setting → Option (List (String × Setting))
  | table ms => some ms
  | _ => none

/-- Settings turn scalars into what a field wants, and let a list go on after the last member of
a record. -/
def source : Source Setting where
  isNull := isNull
  bool? := bool?
  nat? := nat?
  text? := text?
  items? := items?
  members? := members?
  wholeLists := false

/-! ### Names -/

/-- The small letter for a letter of a name. Of the letters beyond ASCII only the Kelvin sign has a
small letter that a setting may have in its name. -/
def smallLetter (c : Char) : Char := if c = '\u212A' then 'k' else c.toLower

/-- A name in small letters. -/
def foldName (name : String) : String := String.ofList (name.toList.map smallLetter)

/-! ### Layers -/

/-- The value under a name. -/
def member? (v : Setting) (name : String) : Option Setting := do
  ((← v.members?).find? (·.1 = name)).map (·.2)

/-- Replace the value under a name in place, append a new one. -/
def writeMember (name : String) (v : Setting) : List (String × Setting) → List (String × Setting)
  | [] => [(name, v)]
  | (n, w) :: rest => if n = name then (name, v) :: rest else (n, w) :: writeMember name v rest

/-- A table with the members of a value and this one. -/
def withMember (old : Setting) (name : String) (v : Setting) : Setting :=
  .table (writeMember name v (old.members?.getD []))

mutual

/-- What is there after a value was laid over it. -/
def overlay (old : Option Setting) : Setting → Setting
  | .table members => overlayMembers (old.getD (.table [])) members
  | v => v

/-- What is there after members were laid over it one by one. -/
def overlayMembers (old : Setting) : List (String × Setting) → Setting
  | [] => old
  | (name, v) :: rest =>
    let name := foldName name
    overlayMembers (old.withMember name (overlay (old.member? name) v)) rest

end

/-- How many items a path can make a list have. -/
def itemLimit : Nat := 16777216

/-- The place of a position in a list of a length. One in front of the list has none. -/
def place? (position : Int) (length : Nat) : Option Nat :=
  if 0 ≤ position then
    if position < itemLimit then some position.toNat else none
  else if position.natAbs ≤ length then some (length - position.natAbs)
  else none

/-- A list with an item replaced, and null in front of it where there were no items. -/
def withItem (items : List Setting) (place : Nat) (v : Setting) : Setting :=
  let gap := List.replicate (place + 1 - items.length) Setting.null
  .list ((items ++ gap).set place v)

/-- What is there after a value was laid over what a path leads to. Capitals count in the names on
the way, and not in the last one. -/
def putAt? (v : Setting) : List Step → Setting → Option Setting
  | [], _ => some v
  | [.name name], old =>
    let name := foldName name
    some (old.withMember name (overlay (old.member? name) v))
  | .name name :: rest, old => do
    some (old.withMember name (← putAt? v rest ((old.member? name).getD .null)))
  | .item position :: rest, old => do
    let items := old.items?.getD []
    let place ← place? position items.length
    some (withItem items place (← putAt? v rest (items[place]?.getD .null)))

end Setting

end SocketWatch
