import SocketWatch.Attribute
/-!
# Output records

A record is what the watcher has to say about one request or one connection attempt: the name of
its group, gauges with their values, labels, and the time the activity began. Labels and gauges
are kept in name order, so the line a record is shown as is determined by its content.
-/

namespace SocketWatch

/-- One output record. -/
structure Record where
  /-- The group the record belongs to. -/
  group : String
  /-- What identifies and describes the activity. -/
  labels : Attributes
  /-- When the activity began, in nanoseconds. -/
  timestamp : Nat
  /-- The measured values. -/
  gauges : Fields Int := ∅
deriving DecidableEq, Inhabited

namespace Record

/-- Set a gauge. -/
def set (r : Record) (name : String) (value : Int) : Record :=
  { r with gauges := r.gauges.insert name value }

/-- The record with these gauges set one after the other. -/
def setAll (r : Record) (values : List (String × Int)) : Record :=
  values.foldl (fun r v ↦ r.set v.1 v.2) r

/-- The value of a gauge. -/
def gauge? (r : Record) (name : String) : Option Int := r.gauges.find? name

/-- The record as a line of text: group and time, then gauges, then labels. -/
def display (r : Record) : String :=
  let pair (name value : String) : String := " " ++ name ++ "=" ++ value
  r.group ++ " ts=" ++ Numeral.natText r.timestamp
    ++ String.join (r.gauges.entries.map fun (n, v) ↦ pair n (Numeral.intText v))
    ++ String.join (r.labels.entries.map fun (n, v) ↦ pair n v.display)

/-- The record as a document. -/
def toJson (r : Record) : Json :=
  .object [("name", .text r.group),
    ("values", .object (r.gauges.entries.map fun (n, v) ↦ (n, .int v))),
    ("labels", r.labels.toJson), ("timestamp", .nat r.timestamp)]

end Record

end SocketWatch
