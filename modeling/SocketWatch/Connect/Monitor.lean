import SocketWatch.Connect.Attempt
import SocketWatch.Connect.SocketTable
import SocketWatch.Table
/-!
# The monitor of connection attempts

The open attempts under their tuples. Kernel probes carry the tuple as attributes, system calls
through the socket they work on. Only the kernel's own connect event opens an attempt; every
other event is about an attempt that is open or about nothing.

An event that the monitor takes writes what it knows into the attempt and then sends a signal;
where the signal is refused, what was written stays. Attempts that stay undecided are settled by
`trim` against the socket tables of their processes. It does not read them: it is given a
function from processes to tables, so that it is a function of its arguments.
-/

namespace SocketWatch

/-- Why an event could not be taken. -/
inductive MonitorError where
  /-- The event lacks a number that it must carry. -/
  | missingAttribute (name event : String)
  /-- The event lacks a part of the tuple. -/
  | missingTuple (event : String)
  /-- A change of state is about other states than the established one. -/
  | noEstablishedSide (old new : Int64)
  /-- The attempt refused the signal. -/
  | transition (cause : TransitionError)
deriving DecidableEq, Repr

/-- The complaint in words. -/
def MonitorError.message : MonitorError → String
  | .missingAttribute name event => name ++ " of " ++ event ++ " is nil"
  | .missingTuple event => "some fields of the 4-tuple are nil for event " ++ event
  | .noEstablishedSide old new =>
    "no state is 'established' for tcp_set_state event, old state: " ++ Numeral.intText old.toInt
      ++ ", new state: " ++ Numeral.intText new.toInt
  | .transition cause => cause.message

/-! ### What events carry -/

namespace Event

/-- A number that a probe attached. -/
def requireInt (e : Event) (name : String) : Except MonitorError Int64 :=
  match (e.attribute? name).bind (·.int64?) with
  | some n => .ok n
  | none => .error (.missingAttribute name e.name)

/-- The tuple that a kernel probe attached, where it is complete. -/
def attachedTuple? (e : Event) : Option FourTuple := do
  let ip (name : String) : Option Ipv4 := (e.attribute? name).bind (·.ipv4?)
  let port (name : String) : Option UInt16 := (e.attribute? name).bind (·.port?)
  some { srcIp := ← ip "sip", srcPort := ← port "sport",
         dstIp := ← ip "dip", dstPort := ← port "dport" }

/-- The tuple that a kernel probe attached. -/
def attachedTuple (e : Event) : Except MonitorError FourTuple :=
  match e.attachedTuple? with
  | some t => .ok t
  | none => .error (.missingTuple e.name)

/-- The tuple of the socket that a system call works on. -/
def socketTuple (e : Event) : Except MonitorError FourTuple :=
  match e.srcIp, e.dstIp with
  | some srcIp, some dstIp => .ok { srcIp, srcPort := e.srcPort, dstIp, dstPort := e.dstPort }
  | _, _ => .error (.missingTuple e.name)

end Event

/-- The open attempts. -/
structure ConnectMonitor where
  /-- The attempts under their tuples. -/
  attempts : Table FourTuple Attempt := ∅
deriving DecidableEq, Inhabited

namespace ConnectMonitor

/-- How many attempts are open. -/
def size (m : ConnectMonitor) : Nat := m.attempts.size

/-- The open attempt of a tuple. -/
def find? (m : ConnectMonitor) (t : FourTuple) : Option Attempt := m.attempts.find? t

/-- Write an attempt under its tuple. -/
def put (m : ConnectMonitor) (a : Attempt) : ConnectMonitor :=
  { m with attempts := m.attempts.insert a.tuple a }

/-- Forget the attempt of a tuple. -/
def erase (m : ConnectMonitor) (t : FourTuple) : ConnectMonitor :=
  { m with attempts := m.attempts.erase t }

/-! ### Signals -/

/-- Write an attempt and send it a signal: the monitor afterwards, and the attempt to report. -/
def react (m : ConnectMonitor) (a : Attempt) (signal : Signal) :
    ConnectMonitor × Except TransitionError (Option Attempt) :=
  match a.receive signal with
  | .error e => (m.put a, .error e)
  | .ok r => (if r.isOver then m.erase a.tuple else m.put r.attempt, .ok r.report)

/-- What a step answers. -/
abbrev Outcome := ConnectMonitor × Except MonitorError (Option Attempt)

/-- Write an attempt and send it a signal, in a step. -/
def settle (m : ConnectMonitor) (a : Attempt) (signal : Signal) : Outcome :=
  let (m, answer) := m.react a signal
  (m, answer.mapError .transition)

/-- Change the attempt of a tuple and send it a signal; an unknown tuple is about nothing. -/
def revise (m : ConnectMonitor) (t : FourTuple) (change : Attempt → Attempt) (signal : Signal) :
    Outcome :=
  match m.find? t with
  | none => (m, .ok none)
  | some a => m.settle (change a) signal

/-! ### Events -/

/-- The kernel begins to connect. A second beginning under the tuple goes into the attempt that
is open. -/
def kernelBegan (m : ConnectMonitor) (e : Event) : Outcome :=
  match e.attachedTuple, e.requireInt "retval" with
  | .error err, _ => (m, .error err)
  | _, .error err => (m, .error err)
  | .ok t, .ok code =>
    let a := match m.find? t with
      | none => (Attempt.start t e.timestamp code).withProcess e
      | some a => { a with ended := e.timestamp, code }
    m.settle a (if code = 0 then .handshakeBegun else .handshakeRefused)

/-- Return codes of a connect call that decide nothing: in progress, interrupted, connected
already, under way already. -/
def undecidedCodes : List Int64 := [-115, -4, -106, -114]

/-- What the return code of a connect call signals. -/
def callSignal (code : Int64) : Signal :=
  if code = 0 then .callSucceeded
  else if undecidedCodes.contains code then .callUndecided
  else .callFailed

/-- A connect call returns. -/
def callReturned (m : ConnectMonitor) (e : Event) : Outcome :=
  match e.requireInt "res", e.socketTuple with
  | .error err, _ => (m, .error err)
  | _, .error err => (m, .error err)
  | .ok code, .ok t =>
    let signal := callSignal code
    m.revise t (fun a ↦
      let a := { a with ended := e.timestamp }.withProcess e
      if signal = .callFailed then { a with code } else a) signal

/-- The kernel's number of the established state. -/
def establishedCode : Int64 := 1

/-- What a change of a socket's state signals. -/
def stateSignal (old new : Int64) : Except MonitorError Signal :=
  if old = establishedCode then .ok .disestablished
  else if new = establishedCode then .ok .established
  else .error (.noEstablishedSide old new)

/-- The kernel changes the state of a socket. -/
def stateChanged (m : ConnectMonitor) (e : Event) : Outcome :=
  let read : Except MonitorError (FourTuple × Signal) := do
    let t ← e.attachedTuple
    let old ← e.requireInt "old_state"
    let new ← e.requireInt "new_state"
    return (t, ← stateSignal old new)
  match read with
  | .error err => (m, .error err)
  | .ok (t, signal) => m.revise t (fun a ↦ { a with ended := e.timestamp }) signal

/-- A call writes to a socket. -/
def dataSent (m : ConnectMonitor) (e : Event) : Outcome :=
  match e.socketTuple with
  | .error err => (m, .error err)
  | .ok t => m.revise t (·.withProcess e) .dataSent

/-! ### Overdue attempts -/

/-- Whether an attempt of a known process has been open for so many seconds at a time. -/
def isOverdue (now secs : Nat) (a : Attempt) : Bool :=
  a.pid ≠ 0 && Time.ofSeconds secs ≤ now - a.began.toNat

/-- The overdue attempts at a time. -/
def overdue (m : ConnectMonitor) (now secs : Nat) : List Attempt :=
  m.attempts.values.filter (isOverdue now secs)

/-- What the socket table of its process says about an attempt: nothing while the handshake is
under way, and that it expired where the table or the socket is gone. -/
def tableSignal? (table : Option SocketTable) (t : FourTuple) : Option Signal :=
  match table.bind (·.find? (t.source, t.destination)) with
  | none => some .expired
  | some .established => some .established
  | some .synSent => none
  | some .synReceived => none
  | some _ => some .disestablished

/-- Settle one overdue attempt. A refused signal changes nothing. -/
def trimOne (m : ConnectMonitor) (tables : UInt32 → Option SocketTable) (a : Attempt) :
    ConnectMonitor × List Attempt :=
  match tableSignal? (tables a.pid) a.tuple with
  | none => (m, [])
  | some signal =>
    match m.react a signal with
    | (_, .error _) => (m, [])
    | (m, .ok report) => (m, report.toList)

/-- Settle overdue attempts one after the other. -/
def trimAll (m : ConnectMonitor) (tables : UInt32 → Option SocketTable) :
    List Attempt → ConnectMonitor × List Attempt
  | [] => (m, [])
  | a :: rest =>
    let (m, reports) := m.trimOne tables a
    let (m, more) := trimAll m tables rest
    (m, reports ++ more)

/-- Settle the attempts that have been open for so many seconds at a time: the monitor
afterwards, and the attempts to report. -/
def trim (m : ConnectMonitor) (tables : UInt32 → Option SocketTable) (now secs : Nat) :
    ConnectMonitor × List Attempt :=
  m.trimAll tables (m.overdue now secs)

end ConnectMonitor

end SocketWatch
