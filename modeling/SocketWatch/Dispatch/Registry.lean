import SocketWatch.Settings.Basic
import SocketWatch.Table
import SocketWatch.Wire.Protocol
/-!
# The registry of protocols

The protocols that a deployment recognises, in the order in which they are tried. The generic
protocol, which takes everything, is always last: registering a specific protocol puts it in
front of the generic one, and brings the generic one along where it is missing. Registering the
generic protocol again replaces it where it stands.

Protocols are known to the dispatcher by their position in the registry, which does not change
once the registry is built.
-/

namespace SocketWatch

open Wire (Protocol)

/-- A registered protocol. -/
structure Registration where
  /-- The protocol. -/
  protocol : Protocol
  /-- How many bytes of payload its records show. -/
  payloadLength : Nat
  /-- Whether the protocol is tried on ports that are not bound to it. -/
  discern : Bool := true
deriving DecidableEq, Repr, Inhabited

/-- The registered protocols. -/
structure Registry where
  /-- The registrations, in the order in which they are tried. -/
  entries : List Registration := []
  /-- The payload length of a registration that names none. -/
  defaultLength : Nat
deriving DecidableEq, Repr, Inhabited

namespace Registry

/-- The position of a protocol. -/
def position? (r : Registry) (p : Protocol) : Option Nat :=
  r.entries.findIdx? (·.protocol = p)

/-- The position of the protocol of a word. -/
def indexOf? (r : Registry) (key : String) : Option Nat :=
  r.entries.findIdx? (·.protocol.key = key)

/-- The registration at a position. -/
def get? (r : Registry) (i : Nat) : Option Registration := r.entries[i]?

/-- Whether the protocol of a word is registered. -/
def hasProtocol (r : Registry) (key : String) : Bool := (r.indexOf? key).isSome

/-- The payload length for the protocol of a word, registered or not. -/
def payloadLength (r : Registry) (key : String) : Nat :=
  (((r.indexOf? key).bind r.get?).map (·.payloadLength)).getD r.defaultLength

/-- The positions that are tried on a port that is bound to no protocol. -/
def scanOrder (r : Registry) : List Nat :=
  (r.entries.zipIdx.filter (·.1.discern)).map (·.2)

/-- Register the generic protocol, in its place where it has one. -/
def registerGeneric (r : Registry) (e : Registration) : Registry :=
  match r.position? .generic with
  | some i => { r with entries := r.entries.set i e }
  | none => { r with entries := r.entries ++ [e] }

/-- Register a specific protocol in front of the generic one. -/
def registerSpecific (r : Registry) (e : Registration) : Registry :=
  match r.position? .generic with
  | some i => { r with entries := r.entries.insertIdx i e }
  | none =>
    { r with entries :=
        r.entries ++ [e, { protocol := .generic, payloadLength := r.defaultLength }] }

/-- Register a protocol with a payload length, where zero counts as none, and with or without a
part in the scan. -/
def register (r : Registry) (p : Protocol) (payloadLength : Option Nat := none)
    (discern : Bool := true) : Registry :=
  let e : Registration :=
    { protocol := p, payloadLength := positiveOr r.defaultLength payloadLength, discern }
  if p = .generic then r.registerGeneric e else r.registerSpecific e

/-- Register the protocol of a word with the choices made for it; other words are skipped. -/
def registerKey (s : NetworkSettings) (r : Registry) (key : String) : Registry :=
  match Protocol.ofKey? key with
  | none => r
  | some p =>
    match s.tuningOf? key with
    | some t => r.register p t.payloadLength (!t.disableDiscern)
    | none => r.register p

/-- The registry of a deployment: its protocols in order, and the generic one. -/
def ofSettings (s : NetworkSettings) : Registry :=
  let r := s.protocols.foldl (registerKey s) { defaultLength := s.payloadLimit }
  if (r.position? .generic).isSome then r else r.register .generic

end Registry

/-! ### Hits -/

/-- How often each registered protocol was recognised on each port. -/
abbrev PortHits := Table (Nat × UInt16) Nat

namespace PortHits

/-- The hits of a protocol on a port. -/
def count (h : PortHits) (i : Nat) (port : UInt16) : Nat := (h.find? (i, port)).getD 0

/-- Count one more hit. -/
def add (h : PortHits) (i : Nat) (port : UInt16) : PortHits :=
  h.insert (i, port) (h.count i port + 1)

/-- Forget the hits of a protocol on a port. -/
def reset (h : PortHits) (i : Nat) (port : UInt16) : PortHits := h.erase (i, port)

@[simp] theorem count_add_self (h : PortHits) (i : Nat) (port : UInt16) :
    (h.add i port).count i port = h.count i port + 1 := by
  simp [add, count]

@[simp] theorem count_reset_self (h : PortHits) (i : Nat) (port : UInt16) :
    (h.reset i port).count i port = 0 := by
  simp [reset, count]

end PortHits

end SocketWatch
