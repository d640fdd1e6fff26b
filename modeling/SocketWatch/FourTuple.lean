import SocketWatch.Ipv4
/-!
# Four-tuples and NAT

The two ends of a connection. Where addresses are exchanged on the way (NAT), a table leads from
the tuple a process sees to the tuple behind it. The table is given from outside.
-/

namespace SocketWatch

/-- The two ends of a connection. -/
structure FourTuple where
  /-- The source address. -/
  srcIp : Ipv4
  /-- The source port. -/
  srcPort : UInt16
  /-- The destination address. -/
  dstIp : Ipv4
  /-- The destination port. -/
  dstPort : UInt16
deriving DecidableEq, Repr, Inhabited

/-- The tuple as text. -/
def FourTuple.display (t : FourTuple) : String :=
  "src: " ++ t.srcIp.text ++ ":" ++ Numeral.natText t.srcPort.toNat
    ++ ", dst: " ++ t.dstIp.text ++ ":" ++ Numeral.natText t.dstPort.toNat

/-- A lookup of the tuple behind a tuple, asked whether it is about UDP. -/
abbrev NatTable := FourTuple → Bool → Option FourTuple

/-- The table that knows of no tuple. -/
def NatTable.none : NatTable := fun _ _ ↦ Option.none

end SocketWatch
