import SocketWatch.Connect.Monitor
import SocketWatch.Record.Basic
import SocketWatch.Record.Vocabulary
import SocketWatch.Settings.Basic
/-!
# Watching connection attempts

The connect watcher picks the events that tell something about connection attempts, gives each
to the monitor, and turns every attempt that the monitor reports into a record. An event that
the monitor cannot take gives no record.
-/

namespace SocketWatch

/-- What the connect watcher works with. -/
structure ConnectWatcher where
  /-- The settings for connection attempts. -/
  settings : ConnectSettings := {}
  /-- Finds the tuple behind a tuple. -/
  natTable : NatTable := .none

namespace ConnectWatcher

variable (w : ConnectWatcher)

/-- Whether a write counts as a use of a connection: it is on a TCP socket with both addresses,
by a known thread. -/
def isUse (e : Event) : Bool :=
  e.category = .net && e.thread.isSome && e.isTcp && e.srcIp.isSome && e.dstIp.isSome

/-- Give an event to the monitor: the monitor afterwards, and the attempt to report. -/
def observe (m : ConnectMonitor) (e : Event) : ConnectMonitor × Option Attempt :=
  let step : ConnectMonitor.Outcome :=
    match e.name with
    | "connect" => if e.isTcp then m.callReturned e else (m, .ok none)
    | "tcp_connect" => m.kernelBegan e
    | "tcp_set_state" => m.stateChanged e
    | name =>
      if (name = "write" || name = "writev" || name = "sendmsg" || name = "sendto") && isUse e then
        m.dataSent e
      else (m, .ok none)
  (step.1, step.2.toOption.join)

/-! ### Records -/

/-- The labels of the tuple behind a tuple. -/
def putNatTarget (a : Attributes) (t : FourTuple) : Attributes :=
  match w.natTable t false with
  | some behind =>
    (a.putText Label.dnatIp behind.srcIp.text).putInt Label.dnatPort behind.srcPort.toNat
  | none => (a.putText Label.dnatIp "").putInt Label.dnatPort (-1)

/-- The labels of an attempt. -/
def labels (attempt : Attempt) : Attributes :=
  let t := attempt.tuple
  let a : Attributes := ∅
  let a := a.putBool Label.isServer false
  let a :=
    if w.settings.needProcessInfo then
      (a.putInt Label.pid attempt.pid.toNat).putText Label.comm attempt.comm
    else a
  let a := a.putText Label.containerId attempt.containerId
  let a := a.putInt Label.errno attempt.code.toInt
  let a := a.putBool Label.success (attempt.state = .success)
  let a := a.putText Label.srcIp t.srcIp.text
  let a := a.putText Label.dstIp t.dstIp.text
  let a := a.putInt Label.srcPort t.srcPort.toNat
  let a := a.putInt Label.dstPort t.dstPort.toNat
  w.putNatTarget a t

/-- The record of an attempt. Only an established connection has a duration. -/
def record (attempt : Attempt) : Record :=
  ({ group := Group.tcpConnect, labels := w.labels attempt,
     timestamp := attempt.ended.toNat } : Record).setAll
    ((Gauge.connectCount, 1) ::
      if attempt.state = .success then [(Gauge.connectDuration, attempt.duration)] else [])

/-! ### Steps -/

/-- Take in an event. -/
def consume (m : ConnectMonitor) (e : Event) : ConnectMonitor × List Record :=
  let (m, report) := observe m e
  (m, report.toList.map w.record)

/-- Take in events one after the other. -/
def consumeAll (m : ConnectMonitor) : List Event → ConnectMonitor × List Record
  | [] => (m, [])
  | e :: rest =>
    let (m, records) := w.consume m e
    let (m, more) := consumeAll m rest
    (m, records ++ more)

/-- The processes whose socket tables `trim` will ask for. -/
def trimPids (m : ConnectMonitor) (now : Nat) : List UInt32 :=
  (m.overdue now w.settings.waitSecs).map (·.pid)

/-- Settle the attempts that have been open for too long at a time. -/
def trim (m : ConnectMonitor) (tables : UInt32 → Option SocketTable) (now : Nat) :
    ConnectMonitor × List Record :=
  let (m, reports) := m.trim tables now w.settings.waitSecs
  (m, reports.map w.record)

end ConnectWatcher

end SocketWatch
