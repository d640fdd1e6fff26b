import SocketWatch.Connect.Monitor
import SocketWatch.Proofs.Stepwise
/-!
# Runs of the connection monitor

The monitor is asked five things: to take in one of four kinds of event, and to settle what has
been open for too long. The four events differ in where they find their tuple, in what they write
and in the signal they send, and in nothing else. So each of them is read off the event as an
`Impact`, before any state is looked at, and `applied` says once what an impact does to a monitor.
Only the impact of the kernel's connect event opens an attempt.

What a signal does to one attempt is `Attempt.respond`: the attempt stays as it was written where
the signal is refused, is gone where the signal closes it, and is reported where it decides it.
-/

namespace SocketWatch

/-- What a connection monitor is asked to do. -/
inductive ConnectCall where
  /-- The kernel begins to connect. -/
  | kernelBegan (e : Event)
  /-- A connect call returns. -/
  | callReturned (e : Event)
  /-- The kernel changes the state of a socket. -/
  | stateChanged (e : Event)
  /-- A call writes to a socket. -/
  | dataSent (e : Event)
  /-- Settle what has been open for so many seconds at a time, against the socket tables that are
  there to be read at that time. -/
  | trim (tables : UInt32 → Option SocketTable) (now secs : Nat)

/-- A tuple, for runs that are written out. -/
def FourTuple.sample : FourTuple := ⟨⟨1⟩, 40000, ⟨2⟩, 80⟩

/-- An event of a kernel probe on the socket of that tuple, with numbers that it attached. -/
def Event.probed (name : String) (timestamp : UInt64) (numbers : List (String × Int64)) : Event where
  name := name
  timestamp := timestamp
  attributes :=
    ([("sip", 1), ("sport", 40000), ("dip", 2), ("dport", 80)] ++ numbers).foldl
      (fun attributes (entry : String × Int64) ↦ attributes.insert entry.1 (.int entry.2)) ∅

namespace ConnectMonitor

/-- The attempts that a step on an event reports, at most one. -/
def Outcome.reports (o : Outcome) : List Attempt := o.2.toOption.join.toList

/-- What a call does to the monitor, and the attempts it reports. -/
def step (m : ConnectMonitor) : ConnectCall → ConnectMonitor × List Attempt
  | .kernelBegan e => ((m.kernelBegan e).1, (m.kernelBegan e).reports)
  | .callReturned e => ((m.callReturned e).1, (m.callReturned e).reports)
  | .stateChanged e => ((m.stateChanged e).1, (m.stateChanged e).reports)
  | .dataSent e => ((m.dataSent e).1, (m.dataSent e).reports)
  | .trim tables now secs => m.trim tables now secs

/-- A fresh monitor after calls. -/
def after (calls : List ConnectCall) : ConnectMonitor := (Stepwise.run step {} calls).1

/-- What calls report about a tuple when they follow others. -/
def reportsOf (t : FourTuple) (before calls : List ConnectCall) : List Attempt :=
  (Stepwise.run step (after before) calls).2.filter (·.tuple = t)

theorem after_concat (calls : List ConnectCall) (c : ConnectCall) :
    after (calls ++ [c]) = ((after calls).step c).1 := by
  rw [after, Stepwise.run_concat]
  rfl

theorem reportsOf_concat (t : FourTuple) (before calls : List ConnectCall) (c : ConnectCall) :
    reportsOf t before (calls ++ [c]) =
      reportsOf t before calls ++ ((after (before ++ calls)).step c).2.filter (·.tuple = t) := by
  have hstate : after (before ++ calls) = (Stepwise.run step (after before) calls).1 := by
    rw [after, Stepwise.run_append]
    rfl
  rw [hstate, reportsOf, Stepwise.run_concat, List.filter_append]
  rfl

end ConnectMonitor

/-! ### One attempt and a signal -/

/-- A signal that a state takes changes nothing, or decides, or closes what was decided. -/
theorem AttemptState.next_cases {s s' : AttemptState} {signal : Signal}
    (h : s.next signal = .ok s') :
    (s' = s ∧ s ≠ .closed) ∨ (s = .inProgress ∧ s'.isDecided = true) ∨
      (s.isDecided = true ∧ s' = .closed) := by
  cases s <;> cases signal <;> cases h <;> decide

/-- An attempt in progress refuses nothing. -/
theorem AttemptState.next_inProgress (signal : Signal) :
    ∃ s, AttemptState.inProgress.next signal = .ok s := by
  cases signal <;> exact ⟨_, rfl⟩

theorem AttemptState.ne_closed {s : AttemptState} (h : s.isDecided = true) : s ≠ .closed := by
  rintro rfl
  cases h

theorem AttemptState.ne_inProgress {s : AttemptState} (h : s.isDecided = true) :
    s ≠ .inProgress := by
  rintro rfl
  cases h

namespace Attempt

@[simp] theorem withProcess_tuple (a : Attempt) (e : Event) : (a.withProcess e).tuple = a.tuple := by
  unfold withProcess
  cases e.thread <;> rfl

@[simp] theorem withProcess_lifecycle (a : Attempt) (e : Event) :
    (a.withProcess e).lifecycle = a.lifecycle := by
  unfold withProcess
  cases e.thread <;> rfl

/-- What is left of an attempt that is written and sent a signal, and what is reported of it. -/
def respond (a : Attempt) (signal : Signal) : Option Attempt × List Attempt :=
  match a.receive signal with
  | .error _ => (some a, [])
  | .ok r => (if r.isOver then none else some r.attempt, r.report.toList)

theorem receive_tuple {a : Attempt} {signal : Signal} {r : Reaction}
    (h : a.receive signal = .ok r) : r.attempt.tuple = a.tuple := by
  unfold receive at h
  cases hl : a.lifecycle.receive signal with
  | error err =>
    rw [hl] at h
    cases h
  | ok l =>
    rw [hl] at h
    cases h
    rfl

/-- A signal that is taken moves the state. -/
theorem receive_state {a : Attempt} {signal : Signal} {r : Reaction}
    (h : a.receive signal = .ok r) : a.state.next signal = .ok r.attempt.state := by
  unfold receive Lifecycle.receive at h
  cases hs : a.lifecycle.current.next signal with
  | error err =>
    rw [hs] at h
    cases h
  | ok s =>
    rw [hs] at h
    cases h
    exact hs

/-- An attempt that refuses a signal is not in progress. -/
theorem ne_inProgress_of_receive {a : Attempt} {signal : Signal} {cause : TransitionError}
    (h : a.receive signal = .error cause) : a.state ≠ .inProgress := by
  intro hstate
  obtain ⟨s, hs⟩ := AttemptState.next_inProgress signal
  have hnext : a.lifecycle.current.next signal = .ok s := by
    rw [← hs, ← hstate]
    rfl
  rw [receive, Lifecycle.receive, hnext] at h
  cases h

/-- The three things that can become of an attempt: it stays as decided as it was, it is decided
and reported as it is then, or it was decided before and is closed in silence. -/
inductive Response (a : Attempt) : Option Attempt × List Attempt → Prop where
  /-- Nothing new was learned, or the signal was refused. -/
  | stays (l : Lifecycle) : l.current = a.state → Response a (some { a with lifecycle := l }, [])
  /-- The outcome became known. -/
  | decides (l : Lifecycle) : a.state = .inProgress → l.current.isDecided = true →
    Response a (some { a with lifecycle := l }, [{ a with lifecycle := l }])
  /-- The connection is over. -/
  | closes : a.state.isDecided = true → Response a (none, [])

/-- **A signal does one of three things.** In particular no signal closes an attempt that is in
progress. -/
theorem respond_cases (a : Attempt) (signal : Signal) : a.Response (a.respond signal) := by
  unfold respond receive Lifecycle.receive
  cases hs : a.lifecycle.current.next signal with
  | error err => exact .stays a.lifecycle rfl
  | ok s =>
    rcases AttemptState.next_cases hs with ⟨rfl, hopen⟩ | ⟨hold, hnew⟩ | ⟨hold, rfl⟩
    · -- a signal that repeats what is known
      simpa [Except.map, Lifecycle.hasChanged, state, hopen] using
        Response.stays (a := a) ⟨a.lifecycle.current, a.lifecycle.current⟩ rfl
    · have hne : s ≠ .closed := AttemptState.ne_closed hnew
      have hchanged : a.lifecycle.current ≠ s := by
        rw [hold]
        exact (AttemptState.ne_inProgress hnew).symm
      simpa [Except.map, Lifecycle.hasChanged, state, hne, hnew, hchanged] using
        Response.decides (a := a) ⟨s, a.lifecycle.current⟩ hold hnew
    · simpa [Except.map, Lifecycle.hasChanged, state, AttemptState.isDecided] using
        Response.closes (a := a) hold

end Attempt

/-! ### What an event asks for -/

/-- What an event asks of the monitor: to open an attempt where none is open under its tuple, to
write into the one that is, and then to send a signal. What is written never moves an attempt to
another tuple and never touches its lifecycle. -/
structure Impact where
  /-- The tuple that the event is about. -/
  tuple : FourTuple
  /-- What the event opens where nothing is open. -/
  opening : Option Attempt := none
  /-- What the event writes into an open attempt. -/
  writes : Attempt → Attempt
  /-- The signal it sends. -/
  signal : Signal
  /-- What it opens is of its tuple. -/
  opening_tuple : ∀ a ∈ opening, a.tuple = tuple
  /-- What it opens is in progress. -/
  opening_state : ∀ a ∈ opening, a.state = .inProgress
  /-- Writing keeps the tuple. -/
  writes_tuple : ∀ a, (writes a).tuple = a.tuple
  /-- Writing keeps the state. -/
  writes_state : ∀ a, (writes a).state = a.state

namespace Impact

/-- The attempt that is sent the signal. -/
def target (i : Impact) (slot : Option Attempt) : Option Attempt := (slot.map i.writes).or i.opening

/-- What an impact does to what is open under its tuple, and what it reports. -/
def strike (i : Impact) (slot : Option Attempt) : Option Attempt × List Attempt :=
  match i.target slot with
  | none => (none, [])
  | some a => a.respond i.signal

theorem strike_of_some {i : Impact} {slot : Option Attempt} {a : Attempt}
    (h : i.target slot = some a) : i.strike slot = a.respond i.signal := by
  simp only [strike, h]

/-- An attempt that is open is struck. -/
theorem eq_none_of_target (i : Impact) {slot : Option Attempt} (h : i.target slot = none) :
    slot = none := by
  cases slot with
  | none => rfl
  | some a => cases h

theorem target_tuple (i : Impact) {slot : Option Attempt} (hslot : ∀ a ∈ slot, a.tuple = i.tuple)
    {a : Attempt} (h : i.target slot = some a) : a.tuple = i.tuple := by
  cases slot with
  | none => exact i.opening_tuple a h
  | some b =>
    have hb : i.writes b = a := by simpa [target] using h
    rw [← hb, i.writes_tuple]
    exact hslot b rfl

end Impact

namespace Event

/-- The kernel's connect event opens an attempt, or starts the one that is open again. -/
def beginning (e : Event) : Except MonitorError Impact := do
  let tuple ← e.attachedTuple
  let code ← e.requireInt "retval"
  return {
    tuple
    opening := some ((Attempt.start tuple e.timestamp code).withProcess e)
    writes := fun a ↦ { a with ended := e.timestamp, code }
    signal := if code = 0 then .handshakeBegun else .handshakeRefused
    opening_tuple := by rintro a ⟨⟩; exact Attempt.withProcess_tuple _ e
    opening_state := by rintro a ⟨⟩; rw [Attempt.state, Attempt.withProcess_lifecycle]; rfl
    writes_tuple := fun _ ↦ rfl
    writes_state := fun _ ↦ rfl }

/-- The return of a connect call tells the process, and the error number where it failed. -/
def returning (e : Event) : Except MonitorError Impact := do
  let code ← e.requireInt "res"
  let tuple ← e.socketTuple
  let signal := ConnectMonitor.callSignal code
  return {
    tuple
    writes := fun a ↦
      let a := { a with ended := e.timestamp }.withProcess e
      if signal = .callFailed then { a with code } else a
    signal
    opening_tuple := by rintro a ⟨⟩
    opening_state := by rintro a ⟨⟩
    writes_tuple := fun a ↦ by dsimp only; split <;> simp
    writes_state := fun a ↦ by dsimp only; split <;> simp [Attempt.state] }

/-- A change of a socket's state tells when it happened. -/
def changing (e : Event) : Except MonitorError Impact := do
  let tuple ← e.attachedTuple
  let old ← e.requireInt "old_state"
  let new ← e.requireInt "new_state"
  let signal ← ConnectMonitor.stateSignal old new
  return {
    tuple
    writes := fun a ↦ { a with ended := e.timestamp }
    signal
    opening_tuple := by rintro a ⟨⟩
    opening_state := by rintro a ⟨⟩
    writes_tuple := fun _ ↦ rfl
    writes_state := fun _ ↦ rfl }

/-- A write to a socket tells the process. -/
def sending (e : Event) : Except MonitorError Impact := do
  let tuple ← e.socketTuple
  return {
    tuple
    writes := fun a ↦ a.withProcess e
    signal := .dataSent
    opening_tuple := by rintro a ⟨⟩
    opening_state := by rintro a ⟨⟩
    writes_tuple := fun a ↦ by simp
    writes_state := fun a ↦ by simp [Attempt.state] }

end Event

namespace ConnectMonitor

variable (m : ConnectMonitor) (e : Event)

/-- What an impact does to a monitor. -/
def applied : Except MonitorError Impact → Outcome
  | .error err => (m, .error err)
  | .ok i =>
    match i.target (m.find? i.tuple) with
    | none => (m, .ok none)
    | some a => m.settle a i.signal

theorem applied_of_none {m : ConnectMonitor} {i : Impact} (h : i.target (m.find? i.tuple) = none) :
    m.applied (.ok i) = (m, .ok none) := by
  simp only [applied, h]

theorem applied_of_some {m : ConnectMonitor} {i : Impact} {a : Attempt}
    (h : i.target (m.find? i.tuple) = some a) : m.applied (.ok i) = m.settle a i.signal := by
  simp only [applied, h]

/-- An impact that opens nothing revises what is open. -/
theorem revise_eq (i : Impact) (h : i.opening = none) :
    m.revise i.tuple i.writes i.signal = m.applied (.ok i) := by
  unfold revise
  cases hslot : m.find? i.tuple <;> simp [applied, Impact.target, h, hslot]

theorem kernelBegan_eq : m.kernelBegan e = m.applied e.beginning := by
  unfold kernelBegan Event.beginning
  cases e.attachedTuple with
  | error err => rfl
  | ok t =>
    cases e.requireInt "retval" with
    | error err => rfl
    | ok code =>
      show m.settle _ _ = m.applied (.ok _)
      cases hslot : m.find? t <;> simp [applied, Impact.target, hslot]

theorem callReturned_eq : m.callReturned e = m.applied e.returning := by
  unfold callReturned Event.returning
  cases e.requireInt "res" with
  | error err => rfl
  | ok code =>
    cases e.socketTuple with
    | error err => rfl
    | ok t => exact m.revise_eq (Impact.mk t _ _ _ _ _ _ _) rfl

theorem stateChanged_eq : m.stateChanged e = m.applied e.changing := by
  unfold stateChanged Event.changing
  cases e.attachedTuple with
  | error err => rfl
  | ok t =>
    cases e.requireInt "old_state" with
    | error err => rfl
    | ok old =>
      cases e.requireInt "new_state" with
      | error err => rfl
      | ok new =>
        simp only [bind, Except.bind, pure, Except.pure]
        cases stateSignal old new with
        | error err => rfl
        | ok signal => exact m.revise_eq (Impact.mk t _ _ _ _ _ _ _) rfl

theorem dataSent_eq : m.dataSent e = m.applied e.sending := by
  unfold dataSent Event.sending
  cases e.socketTuple with
  | error err => rfl
  | ok t => exact m.revise_eq (Impact.mk t _ _ _ _ _ _ _) rfl

end ConnectMonitor

end SocketWatch
