import SocketWatch.Event.Basic
import SocketWatch.Time
/-!
# Bursts: events folded into one

The kernel splits what an application does once into several calls: a request is written in
pieces, a response read in pieces, a connect retried. A burst is such a run of events of one
phase of one dialog, folded into one logical event. Until a second event arrives it is that first
event. From then on it keeps the first `maxEvents` events, the first `limit` bytes of all of them
together, the sum of their results, and the time from the start of the burst to its last event.
-/

namespace SocketWatch

/-- What a burst of at least two events adds up to. -/
structure Merged where
  /-- The first events. -/
  events : List Event
  /-- Time from the start of the burst to the last event. -/
  latency : Nat
  /-- The sum of the results. -/
  result : Int
  /-- When the last event ended. -/
  timestamp : Nat
  /-- The first bytes of all events together. -/
  data : List UInt8
deriving DecidableEq, Inhabited

/-- A run of events of one phase. -/
structure Burst where
  /-- The event that started the run. -/
  first : Event
  /-- What the run adds up to, from the second event on. -/
  merged : Option Merged := none
  /-- How many bytes a run of several events keeps. -/
  limit : Nat
deriving DecidableEq, Inhabited

namespace Burst

/-- How many events a burst keeps. -/
def maxEvents : Nat := 10

/-- The burst of one event. -/
def ofEvent (e : Event) (limit : Nat) : Burst := { first := e, limit }

/-- What an event adds up to by itself. -/
def start (e : Event) (limit : Nat) : Merged where
  events := [e]
  latency := e.latency.toNat
  result := e.result.toInt
  timestamp := e.timestamp.toNat
  data := e.data.take limit

end Burst

namespace Merged

/-- Add an event. An event that ended before the start of the burst leaves no time. -/
def add (m : Merged) (e : Event) (limit : Nat) : Merged where
  events := if m.events.length < Burst.maxEvents then m.events ++ [e] else m.events
  latency := (e.timestamp.toNat + m.latency) - m.timestamp
  result := m.result + e.result.toInt
  timestamp := e.timestamp.toNat
  data := m.data ++ e.data.take (limit - m.data.length)

end Merged

namespace Burst

variable (b : Burst)

/-- Add an event. -/
def merge (e : Event) : Burst :=
  { b with merged := some ((b.merged.getD (start b.first b.limit)).add e b.limit) }

/-- The events that are kept, in order of arrival. -/
def events : List Event := b.merged.elim [b.first] (·.events)

/-- How many events are kept. -/
def size : Nat := b.events.length

/-- The bytes that are kept. -/
def data : List UInt8 := b.merged.elim b.first.data (·.data)

/-- When the first event ended. -/
def firstTimestamp : Nat := b.first.timestamp.toNat

/-- When the last event ended. -/
def lastTimestamp : Nat := b.merged.elim b.first.timestamp.toNat (·.timestamp)

/-- Time from the start of the burst to the last event. -/
def duration : Nat := b.merged.elim b.first.latency.toNat (·.latency)

/-- The sum of the results. -/
def result : Int := b.merged.elim b.first.result.toInt (·.result)

/-- Whether an event comes too late to belong to the burst, or from another source port. Time
counts from the start of the first event; an event that ended before that is never too late. -/
def isTimeout (e : Event) (secs : Nat) : Bool :=
  if e.timestamp.toNat < b.first.startTime then false
  else Time.ofSeconds secs < e.timestamp.toNat - b.first.startTime
    || e.srcPort ≠ b.first.srcPort

/-! ### One event, and one more -/

@[simp] theorem events_ofEvent (e : Event) (limit : Nat) : (ofEvent e limit).events = [e] := rfl

@[simp] theorem data_ofEvent (e : Event) (limit : Nat) : (ofEvent e limit).data = e.data := rfl

@[simp] theorem first_merge (e : Event) : (b.merge e).first = b.first := rfl

@[simp] theorem limit_merge (e : Event) : (b.merge e).limit = b.limit := rfl

@[simp] theorem lastTimestamp_merge (e : Event) :
    (b.merge e).lastTimestamp = e.timestamp.toNat := rfl

theorem result_merge (e : Event) : (b.merge e).result = b.result + e.result.toInt := by
  cases h : b.merged <;> simp [merge, result, Merged.add, start, h]

end Burst

end SocketWatch
