import SocketWatch.Wire.Message
/-!
# Dubbo

A frame starts with a header of sixteen bytes: a magic number, a byte of flags with the
serialization in its low bits, a status, the number of the request and the length of the body.
The body of a request starts with four texts in the chosen serialization: version of the
protocol, service, version of the service, and method.
-/

namespace SocketWatch.Wire.Dubbo

/-- The length of a header. -/
def headerLength : Nat := 16

/-- The first two bytes of every frame. -/
def magic : List UInt8 := [0xDA, 0xBB]

/-- The status of a call that went well. -/
def statusOk : UInt8 := 20

/-- The flags of a frame. -/
structure Flags where
  /-- The frame is a request. -/
  isRequest : Bool
  /-- The caller waits for a response. -/
  isTwoWay : Bool
  /-- The frame keeps the connection alive. -/
  isEvent : Bool
  /-- The serialization of the body. -/
  serialization : Nat
deriving DecidableEq, Repr

/-- The flags of a byte. -/
def Flags.ofByte (b : UInt8) : Flags where
  isRequest := b.toNat / 128 % 2 = 1
  isTwoWay := b.toNat / 64 % 2 = 1
  isEvent := b.toNat / 32 % 2 = 1
  serialization := b.toNat % 32

/-- A serialization whose texts can be read. -/
inductive Serializer where
  | hessian2 | fastJson
deriving DecidableEq, Repr

namespace Serializer

/-- The serialization with a number. -/
def ofId? : Nat → Option Serializer
  | 2 => some .hessian2
  | 6 => some .fastJson
  | _ => none

/-- The text a body starts with and what follows it. A text that the capture cuts off is taken
as far as it goes. Hessian 2 puts a length of one byte in front, or of two if the first is from
`0x30` to `0x33`; JSON puts a quote around and a line feed behind. -/
def text : Serializer → List UInt8 → List UInt8 × List UInt8
  | _, [] => ([], [])
  | .hessian2, tag :: rest =>
    if 0x30 ≤ tag && tag ≤ 0x33 then match rest with
      | [] => ([], [])
      | low :: rest =>
        let size := (tag.toNat - 0x30) * 256 + low.toNat
        (rest.take size, rest.drop size)
    else (rest.take tag.toNat, rest.drop tag.toNat)
  | .fastJson, bs =>
    let body := (bs.dropWhile (· ≠ 0x22)).drop 1
    let value := body.takeWhile (· ≠ 0x22)
    (value, body.drop (value.length + 2))

end Serializer

/-- The service and the method that a body calls. -/
def call (s : Serializer) (body : List UInt8) : List UInt8 × List UInt8 :=
  let (_, rest) := s.text body
  let (service, rest) := s.text rest
  let (_, rest) := s.text rest
  let (method, _) := s.text rest
  (service, method)

/-- What a request is about: service and method of a call that waits for its response, a fixed
word for other frames; `none` for a frame that is no request. -/
def contentKey? (flags : Flags) (body : List UInt8) : Option String :=
  if flags.serialization = 0 then none
  else if flags.isEvent then some "Heartbeat"
  else if !flags.isRequest then none
  else if !flags.isTwoWay then some "Oneway"
  else match Serializer.ofId? flags.serialization with
    | none => some "UnSupportSerialFormat"
    | some s =>
      let (service, method) := call s body
      some (Utf8.lossy service ++ "#" ++ Utf8.lossy method)

/-- The flags, the status and the body of a frame. -/
def frame? (data : List UInt8) : Option (Flags × UInt8 × List UInt8) :=
  if data.length < headerLength || data.take 2 ≠ magic then none
  else do some (.ofByte (← data[2]?), ← data[3]?, data.drop headerLength)

/-- Read a request. -/
def request? (m : Message) : Option Message := do
  let (flags, _, body) ← frame? m.data
  let key ← contentKey? flags body
  some ((m.seek headerLength).putText Label.contentKey key)

/-- Read a response. -/
def response? (m : Message) : Option Message := do
  let (flags, status, _) ← frame? m.data
  if flags.serialization = 0 || (flags.isRequest && !flags.isEvent) then none
  else
    let status := if flags.isEvent then statusOk else status
    some (((m.seek headerLength).putInt Label.dubboErrorCode status.toNat).protocolErrorIf
      (statusOk < status))

end SocketWatch.Wire.Dubbo
