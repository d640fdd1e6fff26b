import SocketWatch.Fields
import SocketWatch.Ipv4
import SocketWatch.Json.Record
/-!
# Attributes

An attribute is a typed value under a name: a label of an output record, or something a probe
attached to an event. Probes are free in how they write a number, so each attribute can be asked
for an integer, a word or an address, whatever it was written as; a truth value is none of these.
-/

namespace SocketWatch

/-- A typed value. -/
inductive Attribute where
  /-- A truth value. -/
  | bool (value : Bool)
  /-- A signed number. -/
  | int (value : Int64)
  /-- An unsigned number. -/
  | word (value : UInt64)
  /-- A text. -/
  | text (value : String)
deriving DecidableEq, Repr, Inhabited

/-- Attributes under their names. -/
abbrev Attributes := Fields Attribute

namespace Attribute

/-- The attribute as a signed number, where it is one or reads as one. -/
def int64? : Attribute → Option Int64
  | .bool _ => none
  | .int v => some v
  | .word v => if v.toNat < Word.count 63 then some (Int64.ofNat v.toNat) else none
  | .text s => (Numeral.int64? 10 s.toList).map Int64.ofInt

/-- The attribute as an unsigned number, where it is one or reads as one. -/
def uint64? : Attribute → Option UInt64
  | .bool _ => none
  | .int v => if 0 ≤ v.toInt then some (UInt64.ofNat v.toInt.toNat) else none
  | .word v => some v
  | .text s => (Numeral.word? 10 64 s.toList).map UInt64.ofNat

/-- The attribute as an address: a text in dotted form, or a number in host order. -/
def ipv4? : Attribute → Option Ipv4
  | .text s => Ipv4.parse? s
  | a => (a.uint64?.filter fun v ↦ v.toNat < Word.count 32).map fun v ↦ ⟨v.toUInt32⟩

/-- The attribute as a port. -/
def port? (a : Attribute) : Option UInt16 :=
  (a.uint64?.filter fun v ↦ v.toNat < Word.count 16).map UInt64.toUInt16

/-- The attribute as it is shown. -/
def display : Attribute → String
  | .bool true => "true"
  | .bool false => "false"
  | .int v => Numeral.intText v.toInt
  | .word v => Numeral.natText v.toNat
  | .text s => s

/-- The attribute as a document. -/
def toJson : Attribute → Json
  | .bool b => .bool b
  | .int v => .int v.toInt
  | .word v => .int v.toNat
  | .text s => .text s

/-- The attribute a document gives; a number is signed where 63 bits and a sign hold it. -/
def ofJson? : Json → Option Attribute
  | .bool b => some (.bool b)
  | .int i =>
    some (if Word.fitsSigned 64 i then .int (Int64.ofInt i) else .word (UInt64.ofNat i.toNat))
  | .text s => some (.text s)
  | _ => none

end Attribute

namespace Attributes

/-- Write an integer, reduced to 64 bits with a sign. -/
def putInt (a : Attributes) (name : String) (value : Int) : Attributes :=
  a.insert name (.int (Int64.ofInt value))

/-- Write a text. -/
def putText (a : Attributes) (name value : String) : Attributes := a.insert name (.text value)

/-- Write a truth value. -/
def putBool (a : Attributes) (name : String) (value : Bool) : Attributes :=
  a.insert name (.bool value)

/-- The integer under a name, zero where there is none. -/
def getInt (a : Attributes) (name : String) : Int64 := ((a.find? name).bind (·.int64?)).getD 0

/-- The text under a name, empty where there is none. -/
def getText (a : Attributes) (name : String) : String :=
  match a.find? name with
  | some (.text s) => s
  | _ => ""

/-- Whether the name holds the truth value true. -/
def getBool (a : Attributes) (name : String) : Bool := a.find? name = some (.bool true)

/-- The attributes as an object, in name order. -/
def toJson (a : Attributes) : Json := .object (a.entries.map fun (n, v) ↦ (n, v.toJson))

/-- The attributes an object gives; of equal names the last counts. -/
def ofJson? (j : Json) : Option Attributes := do
  let entries ← (← j.members?).mapM fun (n, v) ↦ (Attribute.ofJson? v).map fun a ↦ (n, a)
  some (Fields.ofList entries)

end Attributes

end SocketWatch
