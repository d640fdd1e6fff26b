import SocketWatch.Dialog.Basic
import SocketWatch.Settings.Basic
import SocketWatch.Table
/-!
# The store of open dialogs

Events are folded into the open dialog under their key. A dialog is over when a newer connect or
request on the same key supersedes it, or when the reaper finds it idle; it then leaves the store
and is handed over, once. The store does not look at payloads and knows no protocol, so its steps
are functions from a store and an event, or a time, to a store and the dialogs handed over.

Two counters follow the store, one for each kind of key. They are kept beside it rather than
computed from it, and are touched only where a key appears or disappears.
-/

namespace SocketWatch

/-- An open dialog. -/
structure OpenDialog where
  /-- The dialog so far. -/
  dialog : Dialog
  /-- Whether it was handed over. -/
  published : Bool := false
  /-- How many bytes its bursts keep. -/
  limit : Nat
deriving DecidableEq, Inhabited

namespace OpenDialog

/-- The open dialog that starts with an event. -/
def ofEvent (p : Phase) (e : Event) (limit : Nat) : OpenDialog :=
  { dialog := .ofEvent p e limit, limit }

/-- Add an event to a phase. -/
def merge (o : OpenDialog) (p : Phase) (e : Event) : OpenDialog :=
  { o with dialog := o.dialog.merge p e o.limit }

/-- Claim the right to hand the dialog over, which only the first claim gets. -/
def claim (o : OpenDialog) : Bool × OpenDialog := (!o.published, { o with published := true })

/-- The dialog if it is there to be handed over: not claimed before, and not empty. -/
def handOver (o : OpenDialog) : List Dialog :=
  if o.published || o.dialog.isEmpty then [] else [o.dialog]

end OpenDialog

/-- The open dialogs and their counters. -/
structure DialogStore where
  /-- The open dialogs under their keys. -/
  entries : Table DialogKey OpenDialog := ∅
  /-- How many keys of connected descriptors there are. -/
  tcpCount : Int := 0
  /-- How many keys of datagram descriptors there are. -/
  udpCount : Int := 0
deriving DecidableEq, Inhabited

/-- What an event does to the dialog under its key. Events that are not about a thread and a
socket with a source address are dropped, as are datagrams unless `admitUdp`, calls that move no
socket data, and calls that moved none or failed. -/
def Event.phase? (e : Event) (admitUdp : Bool) : Option Phase :=
  if e.category ≠ .net || e.thread.isNone || e.srcIp.isNone || (e.isUdp && !admitUdp) then none
  else if e.isConnect then some .connect
  else match e.isRequest with
    | .error _ => none
    | .ok isRequest =>
      if e.data.isEmpty || e.result.toInt < 0 then none
      else some (if isRequest then .request else .response)

namespace DialogStore

/-- How many dialogs are open. -/
def size (s : DialogStore) : Nat := s.entries.size

/-- Change the counter for a kind of key. -/
def count (s : DialogStore) (key : DialogKey) (change : Int) : DialogStore :=
  if key.isUdp then { s with udpCount := s.udpCount + change }
  else { s with tcpCount := s.tcpCount + change }

/-- Replace the open dialog under a key that is present. -/
def put (s : DialogStore) (key : DialogKey) (o : OpenDialog) : DialogStore :=
  { s with entries := s.entries.insert key o }

/-- Open a dialog under a key that is absent. -/
def insertNew (s : DialogStore) (key : DialogKey) (o : OpenDialog) : DialogStore :=
  (s.put key o).count key 1

/-! ### Events -/

/-- Whether a connect event cannot belong to a dialog: it has a request already, or its connects
are too long ago. -/
def supersededByConnect (d : Dialog) (e : Event) (secs : Nat) : Bool :=
  d.has .request || d.connect.any (·.isTimeout e secs)

/-- Whether a request cannot belong to a dialog: it has a response already, or its requests are
too long ago. -/
def supersededByRequest (d : Dialog) (e : Event) (secs : Nat) : Bool :=
  d.has .response || d.request.any (·.isTimeout e secs)

/-- Fold in a connect event. -/
def connect (s : DialogStore) (settings : NetworkSettings) (e : Event) :
    DialogStore × List Dialog :=
  let key := DialogKey.ofEvent e
  let fresh := OpenDialog.ofEvent .connect e settings.payloadLimit
  match s.entries.find? key with
  | none => (s.insertNew key fresh, [])
  | some o =>
    if supersededByConnect o.dialog e settings.connectTimeoutSecs then
      (s.put key fresh, o.handOver)
    else (s.put key (o.merge .connect e), [])

/-- Fold in a request. -/
def request (s : DialogStore) (settings : NetworkSettings) (e : Event) :
    DialogStore × List Dialog :=
  let key := DialogKey.ofEvent e
  let fresh := OpenDialog.ofEvent .request e settings.payloadLimit
  match s.entries.find? key with
  | none => (s.insertNew key fresh, [])
  | some o =>
    if o.dialog.isEmpty then (s.put key fresh, [])
    else if supersededByRequest o.dialog e settings.requestTimeoutSecs then
      (s.put key fresh, o.handOver)
    else (s.put key (o.merge .request e), [])

/-- Fold in a response; one without a request before it is dropped. -/
def response (s : DialogStore) (e : Event) : DialogStore :=
  let key := DialogKey.ofEvent e
  match s.entries.find? key with
  | none => s
  | some o => if o.dialog.has .request then s.put key (o.merge .response e) else s

/-- Fold in an event: the store afterwards, and the dialog that it superseded. -/
def consume (s : DialogStore) (settings : NetworkSettings) (admitUdp : Bool) (e : Event) :
    DialogStore × List Dialog :=
  match e.phase? admitUdp with
  | none => (s, [])
  | some .connect => s.connect settings e
  | some .request => s.request settings e
  | some .response => (s.response e, [])

/-! ### Idle dialogs -/

/-- Whether a dialog was last active so long before a time that it is over. -/
def isIdle (settings : NetworkSettings) (now : Nat) (o : OpenDialog) : Bool :=
  Time.ofSeconds settings.fdReuseTimeoutSecs ≤ now - o.dialog.lastActive

/-- The idle dialogs at a time, under their keys. -/
def idle (s : DialogStore) (settings : NetworkSettings) (now : Nat) :
    List (DialogKey × OpenDialog) :=
  s.entries.entries.filter fun e ↦ isIdle settings now e.2

/-- Hand over the open dialog found under a key. It leaves the store under the key that its own
events have, and only if that is where it stands. -/
def release (s : DialogStore) (key : DialogKey) (o : OpenDialog) : DialogStore × List Dialog :=
  let (first, claimed) := o.claim
  let s := s.put key claimed
  match first, o.dialog.key? with
  | true, some own =>
    if s.entries.find? own = some claimed then
      ({ s with entries := s.entries.erase own }.count own (-1), [o.dialog])
    else (s, [o.dialog])
  | _, _ => (s, [])

/-- Hand over the idle dialogs one after the other. -/
def releaseAll (s : DialogStore) :
    List (DialogKey × OpenDialog) → DialogStore × List Dialog
  | [] => (s, [])
  | (key, o) :: rest =>
    let (s, handed) := s.release key o
    let (s, more) := s.releaseAll rest
    (s, handed ++ more)

/-- Hand over the dialogs that are idle at a time: the store afterwards, how many were idle, and
what was handed over. -/
def reap (s : DialogStore) (settings : NetworkSettings) (now : Nat) :
    DialogStore × Nat × List Dialog :=
  let idle := s.idle settings now
  let (s, handed) := s.releaseAll idle
  (s, idle.length, handed)

end DialogStore

end SocketWatch
