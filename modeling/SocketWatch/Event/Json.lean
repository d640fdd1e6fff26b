import SocketWatch.Event.Basic
import SocketWatch.Json.Reader
/-!
# Events as JSON

Events arrive as JSON records. Of a known name everything must be as declared: integers in
range, choices spelt exactly, addresses in dotted form. The writer gives every member in
declaration order and is read back by the reader, except that an unsigned attribute that fits a
signed one comes back signed.
-/

namespace SocketWatch

namespace Category

/-- The word for a category. -/
def name : Category → String
  | .unknown => "unknown"
  | .net => "net"
  | .file => "file"
  | .process => "process"
  | .other => "other"

/-- The category of a word. -/
def ofName? (s : String) : Option Category :=
  [unknown, net, file, process, other].find? (·.name = s)

end Category

namespace Transport

/-- The word for a transport protocol. -/
def name : Transport → String
  | .unknown => "unknown"
  | .tcp => "tcp"
  | .udp => "udp"

/-- The transport protocol of a word. -/
def ofName? (s : String) : Option Transport := [unknown, tcp, udp].find? (·.name = s)

end Transport

namespace Json

/-- The document as a 16-bit word. -/
def uint16? (j : Json) : Option UInt16 := (j.nat? 16).map UInt16.ofNat

/-- The document as a 32-bit word. -/
def uint32? (j : Json) : Option UInt32 := (j.nat? 32).map UInt32.ofNat

/-- The document as a 64-bit word. -/
def uint64? (j : Json) : Option UInt64 := (j.nat? 64).map UInt64.ofNat

/-- The document as a signed 32-bit number. -/
def int32? (j : Json) : Option Int32 := (j.signed? 32).map Int32.ofInt

/-- The document as a signed 64-bit number. -/
def int64? (j : Json) : Option Int64 := (j.signed? 64).map Int64.ofInt

/-- The document as a byte. -/
def byte? (j : Json) : Option UInt8 := (j.nat? 8).map UInt8.ofNat

/-- The document as an address. -/
def ipv4? (j : Json) : Option Ipv4 := j.string? >>= Ipv4.parse?

end Json

namespace Thread

/-- The members of a thread. -/
def memberNames : List String := ["pid", "tid", "comm", "container_id"]

/-- The thread a document gives. -/
def ofJson? (j : Json) : Option Thread := do
  let m ← Json.source.record? memberNames j
  some {
    pid := ← m.required "pid" Json.uint32?
    tid := ← m.required "tid" Json.uint32?
    comm := ← m.withDefault "comm" "" Json.string?
    containerId := ← m.withDefault "container_id" "" Json.string? }

/-- The thread as a document. -/
def toJson (t : Thread) : Json :=
  .object [("pid", .nat t.pid.toNat), ("tid", .nat t.tid.toNat), ("comm", .text t.comm),
    ("container_id", .text t.containerId)]

end Thread

namespace Socket

/-- The members of a socket. -/
def memberNames : List String := ["num", "protocol", "role", "sip", "dip", "sport", "dport"]

/-- The socket a document gives. -/
def ofJson? (j : Json) : Option Socket := do
  let m ← Json.source.record? memberNames j
  some {
    num := ← m.required "num" Json.int32?
    transport := ← m.withDefault "protocol" .unknown fun d ↦ d.choice? >>= Transport.ofName?
    isServer := ← m.withDefault "role" false Json.bool?
    srcIp := ← m.optional Json.source "sip" Json.ipv4?
    dstIp := ← m.optional Json.source "dip" Json.ipv4?
    srcPort := ← m.withDefault "sport" 0 Json.uint16?
    dstPort := ← m.withDefault "dport" 0 Json.uint16? }

/-- The socket as a document. -/
def toJson (s : Socket) : Json :=
  .object [("num", .int s.num.toInt), ("protocol", .text s.transport.name),
    ("role", .bool s.isServer), ("sip", .orNull (fun ip ↦ .text ip.text) s.srcIp),
    ("dip", .orNull (fun ip ↦ .text ip.text) s.dstIp), ("sport", .nat s.srcPort.toNat),
    ("dport", .nat s.dstPort.toNat)]

end Socket

namespace Context

/-- The members of a context. -/
def memberNames : List String := ["thread", "fd"]

/-- The context a document gives. -/
def ofJson? (j : Json) : Option Context := do
  let m ← Json.source.record? memberNames j
  some {
    thread := ← m.optional Json.source "thread" Thread.ofJson?
    socket := ← m.optional Json.source "fd" Socket.ofJson? }

/-- The context as a document. -/
def toJson (c : Context) : Json :=
  .object [("thread", .orNull Thread.toJson c.thread), ("fd", .orNull Socket.toJson c.socket)]

end Context

namespace Event

/-- The members of an event. -/
def memberNames : List String :=
  ["name", "category", "timestamp", "latency", "res_val", "data", "ctx", "user_attributes"]

/-- The event a document gives. -/
def ofJson? (j : Json) : Option Event := do
  let m ← Json.source.record? memberNames j
  some {
    name := ← m.required "name" Json.string?
    category := ← m.withDefault "category" .unknown fun d ↦ d.choice? >>= Category.ofName?
    timestamp := ← m.required "timestamp" Json.uint64?
    latency := ← m.withDefault "latency" 0 Json.uint64?
    result := ← m.withDefault "res_val" 0 Json.int64?
    data := ← m.withDefault "data" [] (Json.source.list? Json.byte?)
    context := ← m.withDefault "ctx" none (Json.source.nullable? Context.ofJson?)
    attributes := ← m.withDefault "user_attributes" ∅ Attributes.ofJson? }

/-- The event a text gives. -/
def parse? (s : String) : Option Event := Json.parse? s >>= ofJson?

/-- The event as a document. -/
def toJson (e : Event) : Json :=
  .object [("name", .text e.name), ("category", .text e.category.name),
    ("timestamp", .nat e.timestamp.toNat), ("latency", .nat e.latency.toNat),
    ("res_val", .int e.result.toInt), ("data", .list (e.data.map fun b ↦ .nat b.toNat)),
    ("ctx", .orNull Context.toJson e.context), ("user_attributes", e.attributes.toJson)]

end Event

end SocketWatch
