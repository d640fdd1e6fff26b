import SocketWatch.Dialog.Basic
import SocketWatch.Record.Basic
import SocketWatch.Record.Vocabulary
import SocketWatch.Settings.Basic
import SocketWatch.Text.Ascii
/-!
# Records of dialogs

A dialog with a request gives a record of the exchange, a dialog that only connected a record of
a connection that was never used. The labels are written in layers, later ones over earlier ones:
who talked to whom; the exchange as far as its bursts tell; what the protocol says about it; the
payloads; and last what follows from there being no response.
-/

namespace SocketWatch.Dialog

/-- The labels that tell who talked to whom. -/
def partyLabels (e : Event) : Attributes :=
  let a : Attributes := ∅
  let a := a.putInt Label.pid e.pid.toNat
  let a := a.putText Label.comm e.comm
  let a := a.putText Label.srcIp (e.srcIp.elim "" (·.text))
  let a := a.putText Label.dstIp (e.dstIp.elim "" (·.text))
  let a := a.putInt Label.srcPort e.srcPort.toNat
  let a := a.putInt Label.dstPort e.dstPort.toNat
  let a := a.putText Label.dnatIp ""
  let a := a.putInt Label.dnatPort (-1)
  let a := a.putText Label.containerId e.containerId
  a.putBool Label.isServer e.isServer

/-- Label what went wrong. -/
def putError (a : Attributes) (kind : ErrorKind) : Attributes :=
  (a.putBool Label.isError (kind ≠ .noError)).putInt Label.errorType kind.code

/-- The record of a dialog that only connected. -/
def connectRecord? (d : Dialog) (protocol : String) : Option Record :=
  d.connect.map fun b ↦
    let a := partyLabels b.first
    let a := a.putInt Label.requestTid 0
    let a := a.putInt Label.responseTid 0
    let a := a.putText Label.protocol protocol
    let a := putError a .connectFail
    let labels := a.putBool Label.isSlow false
    let duration := Time.signed b.duration
    ({ group := Group.netRequest, labels, timestamp := b.first.startTime } : Record).setAll
      [(Gauge.connectTime, duration), (Gauge.totalTime, duration)]

/-- The labels of an exchange as far as its bursts tell. -/
def exchangeLabels (s : NetworkSettings) (d : Dialog) (request : Burst) (protocol : String) :
    Attributes :=
  let a := partyLabels request.first
  let a := a.putInt Label.requestTid request.first.tid.toNat
  let a := a.putInt Label.responseTid (d.response.elim 0 fun b ↦ (b.first.tid.toNat : Int))
  let a := putError a .noError
  let a := a.putBool Label.isSlow (d.response.isSome && s.isSlow protocol d.duration)
  a.putText Label.protocol protocol

/-- The labels of the payloads and of the end of the response. -/
def putPayloads (a : Attributes) (d : Dialog) (request : Burst) (payloadLength : Nat) :
    Attributes :=
  let a := match d.response with
    | some b => a.putInt Label.endTimestamp b.lastTimestamp
    | none => a
  let a := a.putText Label.requestPayload (Ascii.printable payloadLength request.data)
  a.putText Label.responsePayload
    (d.response.elim "" fun b ↦ Ascii.printable payloadLength b.data)

/-- The labels that a missing response and a tuple behind NAT add. An error that the protocol
reports is not overwritten by the missing response. -/
def putOutcome (a : Attributes) (d : Dialog) : Attributes :=
  let a := if !a.getBool Label.isError && d.response.isNone then putError a .noResponse else a
  match d.natTarget, d.response with
  | some t, some _ =>
    (a.putText Label.dnatIp t.srcIp.text).putInt Label.dnatPort t.srcPort.toNat
  | _, _ => a

/-- The gauges of an exchange. -/
def exchangeGauges (d : Dialog) : List (String × Int) :=
  [(Gauge.connectTime, Time.signed d.connectDuration),
    (Gauge.requestSentTime, d.sentTime),
    (Gauge.waitingTime, d.waitingTime),
    (Gauge.downloadTime, d.downloadTime),
    (Gauge.totalTime, Time.signed (d.connectDuration + d.duration)),
    (Gauge.requestBytes, d.requestSize),
    (Gauge.responseBytes, d.responseSize)]

/-- The record of a dialog with a request. `found` is what the protocol says about it, and at
most `payloadLength` bytes of each payload are shown. -/
def exchangeRecord? (s : NetworkSettings) (d : Dialog) (protocol : String) (found : Attributes)
    (payloadLength : Nat) : Option Record :=
  d.request.map fun request ↦
    let a := (exchangeLabels s d request protocol).overlay found
    let labels := putOutcome (putPayloads a d request payloadLength) d
    ({ group := Group.netRequest, labels, timestamp := request.first.startTime } : Record).setAll
      d.exchangeGauges

end SocketWatch.Dialog
