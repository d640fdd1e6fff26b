/-!
# The lifecycle of a connection attempt

An attempt is in progress until a signal decides it. It then stays a success or a failure until
it is closed, and closed is final.

```text
inProgress ──► success ──► closed
     │                       ▲
     └───────► failure ──────┘
```

Signals arrive from several probes, some of them late, twice or never. The table therefore takes
a signal that repeats what is known already as no change, and refuses one that contradicts it.
-/

namespace SocketWatch

/-- How far a connection attempt has come. -/
inductive AttemptState where
  /-- The handshake is under way. -/
  | inProgress
  /-- The connection is established. -/
  | success
  /-- The connection could not be established. -/
  | failure
  /-- The attempt is over and forgotten. -/
  | closed
deriving DecidableEq, Repr, Inhabited

/-- What was learned about a connection attempt. -/
inductive Signal where
  /-- The kernel began the handshake. -/
  | handshakeBegun
  /-- The kernel refused to begin the handshake. -/
  | handshakeRefused
  /-- The socket became established. -/
  | established
  /-- The socket left the established state. -/
  | disestablished
  /-- Data was written to the socket. -/
  | dataSent
  /-- The connect call returned success. -/
  | callSucceeded
  /-- The connect call returned failure. -/
  | callFailed
  /-- The connect call returned without a decision. -/
  | callUndecided
  /-- The attempt stayed open for too long and its socket is gone. -/
  | expired
deriving DecidableEq, Repr, Inhabited

/-- A signal that an attempt cannot take. -/
inductive TransitionError where
  /-- The signal contradicts the state. -/
  | unsupported (state : AttemptState) (signal : Signal)
  /-- The attempt is closed. -/
  | terminal
deriving DecidableEq, Repr

namespace AttemptState

/-- The word for a state. -/
def name : AttemptState → String
  | .inProgress => "inprogress"
  | .success => "success"
  | .failure => "failure"
  | .closed => "closed"

/-- The state that a word stands for. -/
def ofName? (s : String) : Option AttemptState :=
  [inProgress, success, failure, closed].find? (·.name = s)

/-- The state after a signal. Either side of the established state, or a write, proves that the
handshake was completed, even where the other signals were lost. -/
def next : AttemptState → Signal → Except TransitionError AttemptState
  | .inProgress, .handshakeBegun => .ok .inProgress
  | .inProgress, .handshakeRefused => .ok .failure
  | .inProgress, .established => .ok .success
  | .inProgress, .disestablished => .ok .success
  | .inProgress, .dataSent => .ok .success
  | .inProgress, .callSucceeded => .ok .success
  | .inProgress, .callFailed => .ok .failure
  | .inProgress, .callUndecided => .ok .inProgress
  | .inProgress, .expired => .ok .failure
  | .success, .established => .ok .success
  | .success, .dataSent => .ok .success
  | .success, .disestablished => .ok .closed
  | .success, .callSucceeded => .ok .success
  | .success, .callUndecided => .ok .success
  | .success, .expired => .ok .closed
  | .failure, .callFailed => .ok .failure
  | .failure, .callUndecided => .ok .failure
  | .failure, .expired => .ok .closed
  | .closed, _ => .error .terminal
  | state, signal => .error (.unsupported state signal)

/-- Whether the outcome of the attempt is known and the attempt not yet closed. -/
def isDecided : AttemptState → Bool
  | .success => true
  | .failure => true
  | _ => false

end AttemptState

/-- The word for a signal. -/
def Signal.name : Signal → String
  | .handshakeBegun => "TcpConnectNoError"
  | .handshakeRefused => "TcpConnectError"
  | .established => "ToEstablished"
  | .disestablished => "FromEstablished"
  | .dataSent => "SendRequest"
  | .callSucceeded => "ConnectExitSuccess"
  | .callFailed => "ConnectExitFailure"
  | .callUndecided => "ConnectExitNotConcern"
  | .expired => "Expired"

/-- The signal that a word stands for. -/
def Signal.ofName? (s : String) : Option Signal :=
  [handshakeBegun, handshakeRefused, established, disestablished, dataSent, callSucceeded,
    callFailed, callUndecided, expired].find? (·.name = s)

/-- The complaint in words. -/
def TransitionError.message : TransitionError → String
  | .unsupported state signal =>
    "receive not supported event [" ++ signal.name ++ "] in state [" ++ state.name ++ "]"
  | .terminal => "state [" ++ AttemptState.closed.name ++ "] is terminal"

/-- The present state of an attempt and the one before the last signal. -/
structure Lifecycle where
  /-- The state now. -/
  current : AttemptState := .inProgress
  /-- The state before the last signal that was taken. -/
  last : AttemptState := .inProgress
deriving DecidableEq, Repr, Inhabited

namespace Lifecycle

/-- The lifecycle that starts in a state. -/
def ofState (s : AttemptState) : Lifecycle := ⟨s, s⟩

/-- Take a signal. -/
def receive (l : Lifecycle) (signal : Signal) : Except TransitionError Lifecycle :=
  (l.current.next signal).map fun next ↦ ⟨next, l.current⟩

/-- Whether the last signal changed the state. -/
def hasChanged (l : Lifecycle) : Bool := l.last ≠ l.current

end Lifecycle

end SocketWatch
