import SocketWatch.Json.Record
import SocketWatch.Time
/-!
# Settings

What a deployment can choose. Values are kept as they were given, so that an absent value and one
equal to the default can be told apart; what is in force is asked of the functions below, where a
span or length of zero counts as absent.

Settings are read from any `Source`.
-/

namespace SocketWatch

/-! ### Protocols -/

/-- What can be chosen for one protocol. -/
structure ProtocolSettings where
  /-- The protocol. -/
  key : String
  /-- The destination ports that are bound to the protocol. -/
  ports : List UInt16 := []
  /-- How many bytes of payload records show. -/
  payloadLength : Option Nat := none
  /-- Recognise the protocol on its bound ports only. -/
  disableDiscern : Bool := false
  /-- From how many milliseconds a response is slow. -/
  slowThreshold : Option Nat := none
deriving DecidableEq, Repr, Inhabited

namespace ProtocolSettings

/-- The members of the settings of a protocol. -/
def memberNames : List String :=
  ["key", "ports", "payload_length", "disable_discern", "slow_threshold"]

/-- The settings of a protocol that a document gives. -/
def read? {δ : Type} (source : Source δ) (doc : δ) : Option ProtocolSettings := do
  let m ← source.record? memberNames doc
  some {
    key := ← m.required "key" source.text?
    ports := ← m.withDefault "ports" []
      (source.list? fun d ↦ (source.nat? 16 d).map UInt16.ofNat)
    payloadLength := ← m.optional source "payload_length" (source.nat? 64)
    disableDiscern := ← m.withDefault "disable_discern" false source.bool?
    slowThreshold := ← m.optional source "slow_threshold" (source.nat? 64) }

end ProtocolSettings

/-! ### Dialogs -/

/-- What can be chosen for the watching of dialogs. -/
structure NetworkSettings where
  /-- Seconds within which connect events of one dialog belong together. -/
  connectTimeout : Option Nat := none
  /-- Seconds within which requests of one dialog belong together. -/
  requestTimeout : Option Nat := none
  /-- Seconds after which an idle dialog is over. -/
  fdReuseTimeout : Option Nat := none
  /-- Seconds between two searches for idle dialogs. -/
  reapInterval : Option Nat := none
  /-- Milliseconds from which a response is slow. -/
  responseSlowThreshold : Option Nat := none
  /-- Bytes of payload kept of each side of a dialog. -/
  maxPayloadLength : Option Nat := none
  /-- Look tuples up in the NAT table. -/
  enableConntrack : Bool := false
  /-- The protocols to recognise, in the order in which they are tried. -/
  protocols : List String := ["http", "mysql", "dns", "redis", "kafka", "dubbo"]
  /-- The choices for single protocols. -/
  tuning : List ProtocolSettings := [
    { key := "http", payloadLength := some 200 },
    { key := "dubbo", payloadLength := some 200 },
    { key := "mysql", ports := [3306], slowThreshold := some 100 },
    { key := "kafka", ports := [9092], slowThreshold := some 100 },
    { key := "dns", ports := [53], slowThreshold := some 100 }]
deriving DecidableEq, Repr, Inhabited

/-- A value that was given and is not zero, else the default. -/
def positiveOr (default : Nat) : Option Nat → Nat
  | some (n + 1) => n + 1
  | _ => default

namespace NetworkSettings

variable (s : NetworkSettings)

/-- Seconds within which connect events belong together, in force. -/
def connectTimeoutSecs : Nat := positiveOr 1 s.connectTimeout

/-- Seconds within which requests belong together, in force. -/
def requestTimeoutSecs : Nat := positiveOr 1 s.requestTimeout

/-- Seconds after which an idle dialog is over, in force. -/
def fdReuseTimeoutSecs : Nat := positiveOr 15 s.fdReuseTimeout

/-- Seconds between two searches for idle dialogs, in force. -/
def reapIntervalSecs : Nat := positiveOr 5 s.reapInterval

/-- Milliseconds from which a response is slow, in force. -/
def slowThresholdMs : Nat := positiveOr 500 s.responseSlowThreshold

/-- Bytes of payload kept, in force. -/
def payloadLimit : Nat := positiveOr 80 s.maxPayloadLength

/-- The choices for a protocol; the last ones where there are several. -/
def tuningOf? (key : String) : Option ProtocolSettings :=
  s.tuning.reverse.find? (·.key = key)

/-- The protocol a port is bound to; the last one where there are several. -/
def boundProtocol? (port : UInt16) : Option String :=
  (s.tuning.reverse.find? (·.ports.contains port)).map (·.key)

/-- Milliseconds from which a response of a protocol is slow, in force: of its choices the last
one that gives a threshold counts. -/
def slowThresholdMsOf (key : String) : Nat :=
  positiveOr s.slowThresholdMs
    ((s.tuning.reverse.find? fun p ↦ p.key = key && p.slowThreshold.isSome).bind
      (·.slowThreshold))

/-- Whether a span is slow for a response of a protocol. -/
def isSlow (key : String) (span : Nat) : Bool := Time.ofMillis (s.slowThresholdMsOf key) ≤ span

/-- The members of the settings for dialogs. -/
def memberNames : List String :=
  ["connect_timeout", "request_timeout", "fd_reuse_timeout", "reap_interval",
    "response_slow_threshold", "max_payload_length", "enable_conntrack", "protocol_parser",
    "protocol_config"]

/-- The settings for dialogs that a document gives. -/
def read? {δ : Type} (source : Source δ) (doc : δ) : Option NetworkSettings := do
  let m ← source.record? memberNames doc
  let default : NetworkSettings := {}
  some {
    connectTimeout := ← m.optional source "connect_timeout" (source.nat? 64)
    requestTimeout := ← m.optional source "request_timeout" (source.nat? 64)
    fdReuseTimeout := ← m.optional source "fd_reuse_timeout" (source.nat? 64)
    reapInterval := ← m.optional source "reap_interval" (source.nat? 64)
    responseSlowThreshold := ← m.optional source "response_slow_threshold" (source.nat? 64)
    maxPayloadLength := ← m.optional source "max_payload_length" (source.nat? 64)
    enableConntrack := ← m.withDefault "enable_conntrack" false source.bool?
    protocols := ← m.withDefault "protocol_parser" default.protocols (source.list? source.text?)
    tuning := ← m.withDefault "protocol_config" default.tuning
      (source.list? (ProtocolSettings.read? source)) }

end NetworkSettings

/-! ### Connection attempts -/

/-- What can be chosen for the watching of connection attempts. -/
structure ConnectSettings where
  /-- How many events may wait. -/
  channelSize : Nat := 10000
  /-- Seconds an attempt may stay open before the socket table is asked. -/
  waitSecs : Nat := 10
  /-- Show process and command in records. -/
  needProcessInfo : Bool := true
deriving DecidableEq, Repr, Inhabited

namespace ConnectSettings

/-- Seconds between two searches for attempts that stayed open. -/
def scanIntervalSecs (s : ConnectSettings) : Nat := max (s.waitSecs / 3) 1

/-- The members of the settings for connection attempts. -/
def memberNames : List String := ["channel_size", "wait_event_second", "need_process_info"]

/-- The settings for connection attempts that a document gives. -/
def read? {δ : Type} (source : Source δ) (doc : δ) : Option ConnectSettings := do
  let m ← source.record? memberNames doc
  some {
    channelSize := ← m.withDefault "channel_size" 10000 (source.nat? 64)
    waitSecs := ← m.withDefault "wait_event_second" 10 (source.nat? 64)
    needProcessInfo := ← m.withDefault "need_process_info" true source.bool? }

end ConnectSettings

/-! ### All of them -/

/-- Everything a deployment can choose. -/
structure Settings where
  /-- Where measurements of the watcher itself would go. -/
  metricsEndpoint : Option String := none
  /-- The choices for dialogs. -/
  network : NetworkSettings := {}
  /-- The choices for connection attempts. -/
  connect : ConnectSettings := {}
deriving DecidableEq, Repr, Inhabited

namespace Settings

/-- The members of the settings. -/
def memberNames : List String := ["otel_exporter_otlp_endpoint", "network", "tcp_connect"]

/-- The settings that a document gives. -/
def read? {δ : Type} (source : Source δ) (doc : δ) : Option Settings := do
  let m ← source.record? memberNames doc
  some {
    metricsEndpoint := ← m.optional source "otel_exporter_otlp_endpoint" source.text?
    network := ← m.withDefault "network" {} (NetworkSettings.read? source)
    connect := ← m.withDefault "tcp_connect" {} (ConnectSettings.read? source) }

end Settings

end SocketWatch
