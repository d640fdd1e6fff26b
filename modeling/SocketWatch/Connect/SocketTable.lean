import SocketWatch.FourTuple
import SocketWatch.Table
import SocketWatch.Text.Blank
import SocketWatch.Text.Utf8
/-!
# Socket tables

The kernel shows the TCP sockets of a process as a text table: a header line, then a line of
columns for each socket. A table is read as a whole or not at all, so one malformed line makes it
unreadable. The reader checks every column whose form is fixed and keeps the two ends and the
state; sockets with IPv6 addresses are checked and left out.
-/

namespace SocketWatch

/-- The state of a socket, as the kernel numbers them from 1. -/
inductive SocketState where
  | established | synSent | synReceived | finWait1 | finWait2 | timeWait | close | closeWait
  | lastAck | listen | closing | newSynReceived
deriving DecidableEq, Repr, Inhabited

namespace SocketState

/-- All states, in the order of their numbers. -/
def all : List SocketState :=
  [established, synSent, synReceived, finWait1, finWait2, timeWait, close, closeWait, lastAck,
    listen, closing, newSynReceived]

/-- The number of a state. -/
def code (s : SocketState) : Nat := all.idxOf s + 1

/-- The state with a number. -/
def ofCode? (n : Nat) : Option SocketState := all.find? (·.code = n)

end SocketState

/-- One end of a socket. -/
structure Endpoint where
  /-- The address. -/
  ip : Ipv4
  /-- The port. -/
  port : UInt16
deriving DecidableEq, Repr, Inhabited

/-- The end as text. -/
def Endpoint.text (p : Endpoint) : String := p.ip.text ++ ":" ++ Numeral.natText p.port.toNat

/-- The source of a tuple. -/
def FourTuple.source (t : FourTuple) : Endpoint := ⟨t.srcIp, t.srcPort⟩

/-- The destination of a tuple. -/
def FourTuple.destination (t : FourTuple) : Endpoint := ⟨t.dstIp, t.dstPort⟩

/-- The states of the sockets of a process, under their local and their remote ends. -/
abbrev SocketTable := Table (Endpoint × Endpoint) SocketState

namespace SocketTable

/-! ### Columns -/

/-- The address of eight hexadecimal digits, least significant byte first. -/
def ipv4? (cs : List Char) : Option Ipv4 := do
  match ← Numeral.hexBytes? cs with
  | [a, b, c, d] => some (.ofOctets d.toNat c.toNat b.toNat a.toNat)
  | _ => none

/-- A column with an address, a colon and a port; what follows a second colon is not looked at.
The address is missing where it is one of IPv6. -/
def endpoint? (cs : List Char) : Option (Option Endpoint) :=
  match Text.split (· = ':') cs with
  | ip :: port :: _ => do
    let port ← Numeral.word? 16 16 port
    if ip.length = 8 then
      let ip ← ipv4? ip
      some (some ⟨ip, UInt16.ofNat port⟩)
    else if ip.length = 32 then
      let _ ← Numeral.hexBytes? ip
      some none
    else none
  | _ => none

/-- Whether a column holds the fill of the two queues. -/
def isQueues (cs : List Char) : Bool :=
  let isWord (cs : List Char) : Bool := (Numeral.word? 16 32 cs).isSome
  isWord (cs.takeWhile (· ≠ ':')) && cs.contains ':' && isWord ((cs.dropWhile (· ≠ ':')).drop 1)

/-! ### Lines -/

/-- One socket. -/
abbrev Row := (Endpoint × Endpoint) × SocketState

/-- The socket of a line; none inside where the line is about IPv6. -/
def row? (line : List Char) : Option (Option Row) :=
  match Text.words line with
  | _ :: here :: there :: state :: queues :: _ :: _ :: uid :: _ :: inode :: _ => do
    let here ← endpoint? here
    let there ← endpoint? there
    let state ← Numeral.word? 16 8 state >>= SocketState.ofCode?
    let _ ← Numeral.word? 10 32 uid
    let _ ← Numeral.word? 10 64 inode
    if isQueues queues then
      some (do
        let here ← here
        let there ← there
        some ((here, there), state))
    else none
  | _ => none

/-- The table that a text shows. The first line is a header and is not looked at; of equal
sockets the last counts. -/
def parse? (content : List UInt8) : Option SocketTable := do
  let rows ← ((Text.lines content).drop 1).mapM fun line ↦ do
    row? (← Utf8.text? line).toList
  some (.ofList (rows.filterMap id))

end SocketTable

end SocketWatch
