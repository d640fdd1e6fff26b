import SocketWatch.Event.Basic
import SocketWatch.Record.Vocabulary
import SocketWatch.Text.Ascii
import SocketWatch.Text.Utf8
import SocketWatch.Wire.Bytes
/-!
# Captured messages

A message is a captured payload on its way through a protocol reader: the bytes, the transport
they were captured on, how far a reader has come and the attributes it has found. A reader takes
a message and either refuses it or returns it with more attributes and a new position; a refused
message is unchanged, which is why readers return an `Option`.
-/

namespace SocketWatch.Wire

/-- A captured payload and what was read from it. -/
structure Message where
  /-- The captured bytes. -/
  data : List UInt8
  /-- The position up to which the bytes are understood. -/
  offset : Nat := 0
  /-- What was found. -/
  attributes : Attributes := ∅
  /-- The transport the bytes were captured on. -/
  transport : Transport := .unknown
deriving DecidableEq, Inhabited

namespace Message

/-- Whether the position has reached the end of the bytes. -/
def isComplete (m : Message) : Bool := m.data.length ≤ m.offset

/-- Whether `size` more bytes follow the position. -/
def hasMore (m : Message) (size : Nat) : Bool := m.offset + size ≤ m.data.length

/-- The bytes from `start` up to the next space and the position behind it, looking at no more
than `limit` bytes. Without a space it is all of those, and the position is their end. -/
def untilBlankWithin (m : Message) (start limit : Nat) : Nat × List UInt8 :=
  let part := window m.data start limit
  let word := part.takeWhile (· ≠ 0x20)
  let stop := min start m.data.length + word.length
  if word.length < part.length then (stop + 1, word)
  else (min (start + limit) m.data.length, word)

/-- The bytes from `start` up to the next space and the position behind it; without a space, the
rest of the capture. -/
def untilBlank (m : Message) (start : Nat) : Nat × List UInt8 :=
  m.untilBlankWithin start m.data.length

/-- Move the position. -/
def seek (m : Message) (offset : Nat) : Message := { m with offset }

/-- Add an integer attribute. -/
def putInt (m : Message) (name : String) (value : Int) : Message :=
  { m with attributes := m.attributes.putInt name value }

/-- Add a text attribute. -/
def putText (m : Message) (name value : String) : Message :=
  { m with attributes := m.attributes.putText name value }

/-- Add a truth value. -/
def putBool (m : Message) (name : String) (value : Bool) : Message :=
  { m with attributes := m.attributes.putBool name value }

/-- Mark the message as an error that the protocol reports. -/
def protocolError (m : Message) : Message :=
  (m.putBool Label.isError true).putInt Label.errorType ErrorKind.protocolError.code

/-- Mark the message as an error where the condition holds. -/
def protocolErrorIf (m : Message) (condition : Prop) [Decidable condition] : Message :=
  if condition then m.protocolError else m

end Message

end SocketWatch.Wire
