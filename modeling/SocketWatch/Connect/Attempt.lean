import SocketWatch.Connect.Lifecycle
import SocketWatch.Event.Basic
import SocketWatch.FourTuple
import SocketWatch.Time
/-!
# Connection attempts

What is known about one attempt of a client to connect. A signal moves it through its lifecycle;
the move into a decided state is the moment at which the attempt is reported, as it is then.
-/

namespace SocketWatch

/-- One attempt to connect. -/
structure Attempt where
  /-- The two ends, the client first. -/
  tuple : FourTuple
  /-- The process, 0 while it is unknown. -/
  pid : UInt32 := 0
  /-- The command. -/
  comm : String := ""
  /-- The container. -/
  containerId : String := ""
  /-- When the attempt began. -/
  began : UInt64
  /-- When something was last learned about it. -/
  ended : UInt64
  /-- The error number returned, 0 where there was none. -/
  code : Int64
  /-- How far it has come. -/
  lifecycle : Lifecycle := {}
deriving DecidableEq, Repr, Inhabited

/-- What a signal does to an attempt. -/
structure Reaction where
  /-- The attempt afterwards. -/
  attempt : Attempt
  /-- The attempt to report, where the signal decided it. -/
  report : Option Attempt
  /-- Whether the attempt is over. -/
  isOver : Bool
deriving DecidableEq, Repr

namespace Attempt

/-- The attempt that begins at a time with a return code. -/
def start (tuple : FourTuple) (time : UInt64) (code : Int64) : Attempt :=
  { tuple, began := time, ended := time, code }

/-- The state of the attempt. -/
def state (a : Attempt) : AttemptState := a.lifecycle.current

/-- The time from the beginning to what was last learned. -/
def duration (a : Attempt) : Int := Time.signed a.ended.toNat - Time.signed a.began.toNat

/-- The attempt with the process of an event, where the event knows its thread. -/
def withProcess (a : Attempt) (e : Event) : Attempt :=
  match e.thread with
  | none => a
  | some t => { a with pid := t.pid, comm := t.comm, containerId := t.containerId }

/-- Take a signal. -/
def receive (a : Attempt) (signal : Signal) : Except TransitionError Reaction :=
  (a.lifecycle.receive signal).map fun lifecycle ↦
    let a := { a with lifecycle }
    { attempt := a
      report := if lifecycle.hasChanged && a.state.isDecided then some a else none
      isOver := a.state = .closed }

end Attempt

end SocketWatch
