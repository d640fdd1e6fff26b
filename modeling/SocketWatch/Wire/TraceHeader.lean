import SocketWatch.Fields
import SocketWatch.Text.Base64
import SocketWatch.Text.Utf8
/-!
# Trace identifiers in HTTP headers

Tracing systems pass the identifier of a trace in a header of their own. The systems are tried
in a fixed order and the first one whose header is present decides, even where its header turns
out to hold no usable identifier; only the two W3C headers give way to what follows them.
-/

namespace SocketWatch.Wire

/-- A tracing system. -/
inductive TraceSystem where
  | skywalking | harmonycloud | zipkin | jaeger | w3c
deriving DecidableEq, Repr

/-- The word for a tracing system. -/
def TraceSystem.name : TraceSystem → String
  | .skywalking => "skywalking"
  | .harmonycloud => "harmonycloud"
  | .zipkin => "zipkin"
  | .jaeger => "jaeger"
  | .w3c => "w3c"

/-- A trace, as a header names it. -/
structure Trace where
  /-- The system the header belongs to. -/
  system : TraceSystem
  /-- The identifier of the trace. -/
  id : String
deriving DecidableEq, Repr

namespace Trace

/-- Drop so many bytes of UTF-8, where they end between two characters. -/
def dropBytes? : Nat → List Char → Option (List Char)
  | 0, cs => some cs
  | _ + 1, [] => none
  | n + 1, c :: cs => if c.utf8Size ≤ n + 1 then dropBytes? (n + 1 - c.utf8Size) cs else none

/-- Take so many bytes of UTF-8, where they end between two characters. -/
def takeBytes? : Nat → List Char → Option (List Char)
  | 0, _ => some []
  | _ + 1, [] => none
  | n + 1, c :: cs =>
    if c.utf8Size ≤ n + 1 then (takeBytes? (n + 1 - c.utf8Size) cs).map (c :: ·) else none

/-- The second part of `sample-id-…`, which is the identifier in Base64. -/
def skywalkingId? (value : String) : Option String := do
  let cs ← dropBytes? 2 value.toList
  let bytes ← Base64.decode? (cs.takeWhile (· ≠ '-'))
  Utf8.text? bytes

/-- What stands before the first colon; all of a text without one, or that starts with one. -/
def jaegerId (value : String) : String :=
  let id := value.toList.takeWhile (· ≠ ':')
  if id.isEmpty then value else String.ofList id

/-- The 32 bytes after the version of `version-id-…`. -/
def w3cId? (value : String) : Option String := do
  let cs ← dropBytes? 3 value.toList
  (takeBytes? 32 cs).map String.ofList

/-- The trace that headers under lowercase names give. -/
def ofHeaders? (headers : Fields String) : Option Trace :=
  let found : Option Trace :=
    match headers.find? "sw8" with
    | some v => (skywalkingId? v).map fun id ↦ ⟨.skywalking, id⟩
    | none =>
    match headers.find? "apm-transactionid" with
    | some v => some ⟨.harmonycloud, v⟩
    | none =>
    match headers.find? "x-b3-traceid" with
    | some v => some ⟨.zipkin, v⟩
    | none =>
    match headers.find? "uber-trace-id" with
    | some v => some ⟨.jaeger, jaegerId v⟩
    | none =>
    match headers.find? "traceparent" >>= w3cId? with
    | some id => some ⟨.w3c, id⟩
    | none => (headers.find? "traceresponse" >>= w3cId?).map fun id ↦ ⟨.w3c, id⟩
  found.filter fun t ↦ !t.id.isEmpty

end Trace

end SocketWatch.Wire
