import SocketWatch.Dialog.Burst
import SocketWatch.Dialog.Key
import SocketWatch.FourTuple
/-!
# Dialogs

A dialog is one exchange on a socket: connecting, a request and a response, each a burst of
events and each possibly absent. Which of the bursts stands for the whole depends on the question:
the identity comes from the earliest phase, the port that decides the protocol from the request
before anything else, and the time of the last activity from the latest phase.
-/

namespace SocketWatch

/-- A phase of a dialog. -/
inductive Phase where
  | connect | request | response
deriving DecidableEq, Repr, Inhabited

/-- One exchange on a socket. -/
structure Dialog where
  /-- Opening the connection. -/
  connect : Option Burst := none
  /-- What the client said. -/
  request : Option Burst := none
  /-- What the server said. -/
  response : Option Burst := none
  /-- The tuple behind the one the process sees. -/
  natTarget : Option FourTuple := none
deriving DecidableEq, Inhabited

namespace Dialog

/-- The burst of a phase. -/
def get (d : Dialog) : Phase → Option Burst
  | .connect => d.connect
  | .request => d.request
  | .response => d.response

/-- Replace the burst of a phase. -/
def set (d : Dialog) (p : Phase) (b : Option Burst) : Dialog :=
  match p with
  | .connect => { d with connect := b }
  | .request => { d with request := b }
  | .response => { d with response := b }

/-- Whether a phase has begun. -/
def has (d : Dialog) (p : Phase) : Bool := (d.get p).isSome

/-- Whether no phase has begun. -/
def isEmpty (d : Dialog) : Bool := !(d.has .connect || d.has .request || d.has .response)

/-- Add an event to a phase, which begins with it where it has not begun. -/
def merge (d : Dialog) (p : Phase) (e : Event) (limit : Nat) : Dialog :=
  match d.get p with
  | some b => d.set p (some (b.merge e))
  | none => d.set p (some (.ofEvent e limit))

/-- The dialog that starts with an event. -/
def ofEvent (p : Phase) (e : Event) (limit : Nat) : Dialog :=
  ({} : Dialog).set p (some (.ofEvent e limit))

/-- The dialog of one request and its response, if it has one. -/
def single (request : Event) (response : Option Event) (natTarget : Option FourTuple)
    (limit : Nat) : Dialog where
  request := some (.ofEvent request limit)
  response := response.map fun e ↦ .ofEvent e limit
  natTarget := natTarget

/-- The first event of the earliest phase. -/
def firstEvent? (d : Dialog) : Option Event :=
  (((d.connect.orElse fun _ ↦ d.request).orElse fun _ ↦ d.response)).map (·.first)

/-- The identity of the dialog. -/
def key? (d : Dialog) : Option DialogKey := d.firstEvent?.map .ofEvent

/-- The destination port that decides the protocol, 0 for an empty dialog. -/
def port (d : Dialog) : UInt16 :=
  ((d.request.orElse fun _ ↦ d.response).orElse fun _ ↦ d.connect).elim 0 (·.first.dstPort)

/-- When the latest phase was last active, 0 for an empty dialog. -/
def lastActive (d : Dialog) : Nat :=
  ((d.response.orElse fun _ ↦ d.request).orElse fun _ ↦ d.connect).elim 0 (·.lastTimestamp)

/-! ### How the time was spent -/

/-- Time spent connecting. -/
def connectDuration (d : Dialog) : Nat := d.connect.elim 0 (·.duration)

/-- Time spent sending the request, -1 without one. -/
def sentTime (d : Dialog) : Int := d.request.elim (-1) fun b ↦ Time.signed b.duration

/-- Time between the last byte of the request and the first of the response, -1 where either is
absent. -/
def waitingTime (d : Dialog) : Int :=
  match d.request, d.response with
  | some req, some resp =>
    Time.signed resp.firstTimestamp - Time.signed resp.first.latency.toNat
      - Time.signed req.lastTimestamp
  | _, _ => -1

/-- Time spent receiving the response, -1 without one. -/
def downloadTime (d : Dialog) : Int := d.response.elim (-1) fun b ↦ Time.signed b.duration

/-- Time from the start of the request to the last byte of the response, 0 without one. -/
def duration (d : Dialog) : Nat :=
  match d.request, d.response with
  | some req, some resp => resp.lastTimestamp - req.first.startTime
  | _, _ => 0

/-- Bytes of the request. -/
def requestSize (d : Dialog) : Int := d.request.elim 0 (·.result)

/-- Bytes of the response. -/
def responseSize (d : Dialog) : Int := d.response.elim 0 (·.result)

/-! ### Merging seen through a phase -/

@[simp] theorem get_set_self (d : Dialog) (p : Phase) (b : Option Burst) :
    (d.set p b).get p = b := by
  cases p <;> rfl

theorem get_set_of_ne (d : Dialog) {p q : Phase} (h : p ≠ q) (b : Option Burst) :
    (d.set p b).get q = d.get q := by
  cases p <;> cases q <;> first | rfl | exact absurd rfl h

theorem get_merge_self (d : Dialog) (p : Phase) (e : Event) (limit : Nat) :
    (d.merge p e limit).get p = some ((d.get p).elim (.ofEvent e limit) (·.merge e)) := by
  unfold merge
  cases d.get p <;> simp

theorem get_merge_of_ne (d : Dialog) {p q : Phase} (h : p ≠ q) (e : Event) (limit : Nat) :
    (d.merge p e limit).get q = d.get q := by
  unfold merge
  cases d.get p <;> simp [get_set_of_ne d h]

end Dialog

end SocketWatch
