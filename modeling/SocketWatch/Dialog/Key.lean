import SocketWatch.Event.Basic
/-!
# The identity of a dialog

A TCP descriptor is bound to one peer while it is open, so process and descriptor identify the
dialog on it. A UDP descriptor may address many peers, so there the addresses and ports belong to
the identity.
-/

namespace SocketWatch

/-- The identity of a dialog. -/
inductive DialogKey where
  /-- A dialog on a connected descriptor. -/
  | tcp (pid : UInt32) (fd : Int32)
  /-- A dialog with one peer of a datagram descriptor. -/
  | udp (pid : UInt32) (fd : Int32) (srcIp dstIp : Ipv4) (srcPort dstPort : UInt16)
deriving DecidableEq, Repr, Inhabited

namespace DialogKey

/-- The dialog an event belongs to. An unknown address counts as `0.0.0.0`, and every transport
but UDP as TCP. -/
def ofEvent (e : Event) : DialogKey :=
  if e.isUdp then
    .udp e.pid e.fdNum (e.srcIp.getD .unspecified) (e.dstIp.getD .unspecified) e.srcPort e.dstPort
  else .tcp e.pid e.fdNum

/-- Whether the dialog is on a datagram descriptor. -/
def isUdp : DialogKey → Bool
  | .tcp .. => false
  | .udp .. => true

end DialogKey

end SocketWatch
