import SocketWatch.Dialog.Store
import SocketWatch.Dispatch.Figures
/-!
# Watching dialogs

The dialog watcher joins the store and the dispatcher: events go into the store, and each dialog
that the store hands over is looked up in the NAT table, if the settings ask for that,
and dispatched. Records come out in the order in which dialogs are handed over.
-/

namespace SocketWatch

/-- What the dialog watcher works with. -/
structure NetworkWatcher where
  /-- Finds the protocol of a dialog. -/
  dispatcher : Dispatcher
  /-- Finds the tuple behind a tuple. -/
  natTable : NatTable := .none

/-- What the dialog watcher keeps. -/
structure NetworkState where
  /-- The open dialogs. -/
  store : DialogStore := {}
  /-- What the dispatcher has learned. -/
  learned : Learned := {}
deriving DecidableEq, Inhabited

namespace NetworkWatcher

variable (w : NetworkWatcher)

/-- The dialog watcher of a deployment. -/
def ofSettings (s : NetworkSettings) (natTable : NatTable) : NetworkWatcher :=
  ⟨.ofSettings s, natTable⟩

/-- The settings for dialogs. -/
def settings : NetworkSettings := w.dispatcher.settings

/-- Datagrams are watched only where DNS can be recognised. -/
def admitUdp : Bool := w.dispatcher.registry.hasProtocol Wire.Protocol.dns.key

/-- The dialog with the tuple behind the one of its first event, where the settings ask for it
and both addresses are known. -/
def resolveNat (d : Dialog) : Dialog :=
  if w.settings.enableConntrack then
    match d.firstEvent? with
    | none => d
    | some e => match e.srcIp, e.dstIp with
      | some srcIp, some dstIp =>
        { d with natTarget :=
            w.natTable { srcIp, srcPort := e.srcPort, dstIp, dstPort := e.dstPort } e.isUdp }
      | _, _ => d
  else d

/-- The records of a list of finished dialogs, one after the other. -/
def dispatchAll (l : Learned) : List Dialog → Learned × List Record
  | [] => (l, [])
  | d :: ds =>
    let (l, records) := w.dispatcher.dispatch l (w.resolveNat d)
    let (l, more) := dispatchAll l ds
    (l, records ++ more)

/-- Take in an event. -/
def consume (s : NetworkState) (e : Event) : NetworkState × List Record :=
  let (store, finished) := s.store.consume w.settings w.admitUdp e
  let (learned, records) := w.dispatchAll s.learned finished
  (⟨store, learned⟩, records)

/-- Finish the dialogs that are idle at a time: the state afterwards, how many were idle, and
their records. -/
def reap (s : NetworkState) (now : Nat) : NetworkState × Nat × List Record :=
  let (store, count, finished) := s.store.reap w.settings now
  let (learned, records) := w.dispatchAll s.learned finished
  (⟨store, learned⟩, count, records)

/-! ### Figures -/

/-- The figures of dispatching finished dialogs, one after the other. -/
def dispatchFigures (l : Learned) : List Dialog → List Figure
  | [] => []
  | d :: ds =>
    w.dispatcher.figures l (w.resolveNat d)
      ++ dispatchFigures (w.dispatcher.dispatch l (w.resolveNat d)).1 ds

/-- The figures of taking in an event. -/
def consumeFigures (s : NetworkState) (e : Event) : List Figure :=
  s.store.figures w.settings w.admitUdp e
    ++ w.dispatchFigures s.learned (s.store.consume w.settings w.admitUdp e).2

/-- The figures of finishing the dialogs that are idle at a time. -/
def reapFigures (s : NetworkState) (now : Nat) : List Figure :=
  w.dispatchFigures s.learned (s.store.reap w.settings now).2.2

end NetworkWatcher

end SocketWatch
