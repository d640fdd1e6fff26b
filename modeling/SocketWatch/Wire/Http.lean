import SocketWatch.Wire.HeaderBlock
import SocketWatch.Wire.Message
import SocketWatch.Wire.TraceHeader
/-!
# HTTP/1

A request is recognised by its method and the space behind it, or, where the first byte of `GET`
went into a capture of its own, by what is left of the method and a slash. A response is
recognised by its version and a digit. Trace identifiers are taken from the headers of either
side, the request's first.
-/

namespace SocketWatch.Wire.Http

/-- Shorter captures are not looked at. -/
def minLength : Nat := 14

/-- The methods. -/
def methods : List String :=
  ["GET", "POST", "PUT", "DELETE", "HEAD", "TRACE", "OPTIONS", "CONNECT"]

/-- The versions. -/
def versions : List String := ["HTTP/1.0", "HTTP/1.1"]

/-- How much of a response is kept in its own label. -/
def payloadLength : Nat := 80

/-- The target without its query, `*` where nothing is left. -/
def contentKey (url : String) : String :=
  let path := url.toList.takeWhile (· ≠ '?')
  if path.isEmpty then "*" else String.ofList path

/-- Add the trace that the headers of the message name. -/
def addTrace (m : Message) : Message :=
  match Trace.ofHeaders? (HeaderBlock.ofMessage m.data) with
  | some t => (m.putText Label.traceType t.system.name).putText Label.traceId t.id
  | none => m

/-- The method a request starts with and the position of its target. -/
def method? (m : Message) : Option (String × Nat) :=
  let (offset, word) := m.untilBlankWithin 0 8
  match methods.find? fun name ↦ Ascii.bytes name = word with
  | some name => some (name, offset)
  | none =>
    if word = Ascii.bytes "ET" && m.data[offset - 1]? = some 0x20
        && m.data[offset]? = some 0x2F then
      some ("GET", offset)
    else none

/-- Read a request. -/
def request? (m : Message) : Option Message := do
  if m.data.length < minLength then none
  else
    let (method, offset) ← method? m
    let url := Utf8.lossy (m.untilBlank offset).2
    some ((((addTrace m).putText Label.httpMethod method).putText Label.httpUrl url).putText
      Label.contentKey (contentKey url))

/-- The status of a response: the digits behind the version, 0 for a number out of range. -/
def status? (m : Message) : Option Nat := do
  let (offset, version) := m.untilBlankWithin 0 9
  if (versions.map Ascii.bytes).contains version && m.data[offset - 1]? = some 0x20 then
    let digits := (m.untilBlankWithin offset 6).2.takeWhile Ascii.isDigit
    let code ← Numeral.digits? 10 (digits.map fun b ↦ Char.ofNat b.toNat)
    some (if 99 ≤ code && code ≤ 999 then code else 0)
  else none

/-- Read a response. -/
def response? (m : Message) : Option Message := do
  if m.data.length < minLength then none
  else
    let code ← status? m
    let m := if m.attributes.contains Label.traceType then m else addTrace m
    let m := (m.putInt Label.httpStatusCode code).putText Label.httpResponsePayload
      (Ascii.printable payloadLength m.data)
    some (m.protocolErrorIf (400 ≤ code))

end SocketWatch.Wire.Http
