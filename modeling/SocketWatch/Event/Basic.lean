import SocketWatch.Attribute
/-!
# Kernel-probe events

One event is one system call or kernel transition as a probe saw it: when it ended and how long
it took, what it returned, the beginning of the bytes it moved, the thread it ran on and the
socket it worked on. Events are read once and never changed. Their numbers are the words of the
probe; arithmetic on them is done on the numbers they denote.
-/

namespace SocketWatch

/-- What an event is about. -/
inductive Category where
  | unknown | net | file | process | other
deriving DecidableEq, Repr, Inhabited

/-- The transport protocol of a socket. -/
inductive Transport where
  | unknown | tcp | udp
deriving DecidableEq, Repr, Inhabited

/-- The thread an event ran on. -/
structure Thread where
  /-- The process. -/
  pid : UInt32
  /-- The thread. -/
  tid : UInt32
  /-- The name of the command. -/
  comm : String := ""
  /-- The container the process runs in. -/
  containerId : String := ""
deriving DecidableEq, Repr, Inhabited

/-- The socket an event worked on, as its file descriptor describes it. -/
structure Socket where
  /-- The file descriptor. -/
  num : Int32
  /-- The transport protocol. -/
  transport : Transport := .unknown
  /-- Whether the traced process is the server side. -/
  isServer : Bool := false
  /-- The source address. -/
  srcIp : Option Ipv4 := none
  /-- The destination address. -/
  dstIp : Option Ipv4 := none
  /-- The source port. -/
  srcPort : UInt16 := 0
  /-- The destination port. -/
  dstPort : UInt16 := 0
deriving DecidableEq, Repr, Inhabited

/-- Where an event happened. -/
structure Context where
  /-- The thread, where it is known. -/
  thread : Option Thread := none
  /-- The socket, where there is one. -/
  socket : Option Socket := none
deriving DecidableEq, Repr, Inhabited

/-- One kernel-probe event. -/
structure Event where
  /-- The system call or kernel event. -/
  name : String
  /-- What it is about. -/
  category : Category := .unknown
  /-- When it ended, in nanoseconds. -/
  timestamp : UInt64
  /-- Nanoseconds spent inside the call. -/
  latency : UInt64 := 0
  /-- What the call returned. -/
  result : Int64 := 0
  /-- The beginning of the bytes moved. -/
  data : List UInt8 := []
  /-- Where it happened. -/
  context : Option Context := none
  /-- What the probe attached. -/
  attributes : Attributes := ∅
deriving DecidableEq, Inhabited

/-- A question about request and response was put to an event that moves no socket data. -/
structure NotSocketEvent where
  /-- The name of the event. -/
  event : String
deriving DecidableEq, Repr

/-- The complaint in words. -/
def NotSocketEvent.message (e : NotSocketEvent) : String :=
  "event " ++ e.event ++ " is not a socket data event"

namespace Event

/-- The calls that read from a socket. -/
def readNames : List String := ["read", "readv", "recvfrom", "recvmsg", "pread", "preadv"]

/-- The calls that write to a socket. -/
def writeNames : List String :=
  ["write", "writev", "sendto", "sendmsg", "sendmmsg", "pwrite", "pwritev"]

/-- The thread of the event. -/
def thread (e : Event) : Option Thread := e.context.bind (·.thread)

/-- The socket of the event. -/
def socket (e : Event) : Option Socket := e.context.bind (·.socket)

/-- The process, 0 where it is unknown. -/
def pid (e : Event) : UInt32 := e.thread.elim 0 (·.pid)

/-- The thread number, 0 where it is unknown. -/
def tid (e : Event) : UInt32 := e.thread.elim 0 (·.tid)

/-- The command, empty where it is unknown. -/
def comm (e : Event) : String := e.thread.elim "" (·.comm)

/-- The container, empty where it is unknown. -/
def containerId (e : Event) : String := e.thread.elim "" (·.containerId)

/-- The file descriptor, -1 where there is none. -/
def fdNum (e : Event) : Int32 := e.socket.elim (-1) (·.num)

/-- The source address. -/
def srcIp (e : Event) : Option Ipv4 := e.socket.bind (·.srcIp)

/-- The destination address. -/
def dstIp (e : Event) : Option Ipv4 := e.socket.bind (·.dstIp)

/-- The source port, 0 where there is no socket. -/
def srcPort (e : Event) : UInt16 := e.socket.elim 0 (·.srcPort)

/-- The destination port, 0 where there is no socket. -/
def dstPort (e : Event) : UInt16 := e.socket.elim 0 (·.dstPort)

/-- The transport protocol. -/
def transport (e : Event) : Transport := e.socket.elim .unknown (·.transport)

/-- Whether the event is on a UDP socket. -/
def isUdp (e : Event) : Bool := e.transport = .udp

/-- Whether the event is on a TCP socket. -/
def isTcp (e : Event) : Bool := e.transport = .tcp

/-- Whether the traced process is the server side. -/
def isServer (e : Event) : Bool := e.socket.elim false (·.isServer)

/-- When the call began: its end less its latency, never before time zero. -/
def startTime (e : Event) : Nat := e.timestamp.toNat - e.latency.toNat

/-- Whether the event opens a connection. -/
def isConnect (e : Event) : Bool := e.name = "connect"

/-- Whether the call writes. -/
def isWrite (e : Event) : Bool := writeNames.contains e.name

/-- Whether the event carries the request side of a dialog: what a server reads, or a client
writes. -/
def isRequest (e : Event) : Except NotSocketEvent Bool :=
  if e.category ≠ .net then .error ⟨e.name⟩
  else
    let inbound? : Option Bool :=
      if readNames.contains e.name then some true
      else if writeNames.contains e.name then some false
      else none
    match inbound?, e.socket with
    | some inbound, some socket => .ok (socket.isServer == inbound)
    | _, _ => .error ⟨e.name⟩

/-- What the probe attached under a name. -/
def attribute? (e : Event) (name : String) : Option Attribute := e.attributes.find? name

end Event

end SocketWatch
