import SocketWatch.Proofs.Connect.Life
import SocketWatch.Proofs.Table
/-!
# Events that the monitor refuses

An event can fail in two ways. It cannot be read, since it lacks a number or a part of its tuple
or is about no established state; or it is read, and the attempt under its tuple does not take its
signal. In the first case nothing is touched. In the second the attempt was written before it was
asked, and what was written stays: when something was last learned, the error number, the process.

So a refused event leaves the monitor as it was exactly if there was nothing new to write
(`refused_unchanged_iff`), which is what `ConnectCall.Repeats` says. In any case it changes one
attempt at most, one that is decided, and of that neither the tuple nor the beginning nor how far
it has come. An attempt in progress takes every signal, so no attempt is refused at its opening.
-/

namespace SocketWatch

/-- A computation that succeeds did so at each of its steps. -/
theorem exists_of_bind_eq_ok {ε α β : Type} {x : Except ε α} {f : α → Except ε β} {b : β}
    (h : x >>= f = .ok b) : ∃ a, x = .ok a ∧ f a = .ok b := by
  cases x with
  | error err => cases h
  | ok a => exact ⟨a, rfl, h⟩

/-- What a call on an event asks for, if the event can be read. Trimming is about no event. -/
def ConnectCall.impact? : ConnectCall → Option (Except MonitorError Impact)
  | .kernelBegan e => some e.beginning
  | .callReturned e => some e.returning
  | .stateChanged e => some e.changing
  | .dataSent e => some e.sending
  | .trim .. => none

/-- Whether all that the event of a call writes is there already. -/
def ConnectCall.Repeats (c : ConnectCall) (m : ConnectMonitor) : Prop :=
  ∀ i a, c.impact? = some (.ok i) → m.find? i.tuple = some a → i.writes a = a

/-! ### What events write -/

namespace Attempt

@[simp] theorem withProcess_began (a : Attempt) (e : Event) : (a.withProcess e).began = a.began := by
  unfold withProcess
  cases e.thread <;> rfl

end Attempt

/-- Neither when an attempt began nor how far it has come is written by any event. -/
theorem ConnectCall.writes_keeps {c : ConnectCall} {i : Impact} (h : c.impact? = some (.ok i))
    (a : Attempt) : (i.writes a).began = a.began ∧ (i.writes a).lifecycle = a.lifecycle := by
  cases c with
  | kernelBegan e =>
    obtain ⟨t, -, h⟩ := exists_of_bind_eq_ok (Option.some.inj h)
    obtain ⟨code, -, h⟩ := exists_of_bind_eq_ok h
    cases h
    exact ⟨rfl, rfl⟩
  | callReturned e =>
    obtain ⟨code, -, h⟩ := exists_of_bind_eq_ok (Option.some.inj h)
    obtain ⟨t, -, h⟩ := exists_of_bind_eq_ok h
    cases h
    dsimp only
    split <;> simp
  | stateChanged e =>
    obtain ⟨t, -, h⟩ := exists_of_bind_eq_ok (Option.some.inj h)
    obtain ⟨old, -, h⟩ := exists_of_bind_eq_ok h
    obtain ⟨new, -, h⟩ := exists_of_bind_eq_ok h
    obtain ⟨signal, -, h⟩ := exists_of_bind_eq_ok h
    cases h
    exact ⟨rfl, rfl⟩
  | dataSent e =>
    obtain ⟨t, -, h⟩ := exists_of_bind_eq_ok (Option.some.inj h)
    cases h
    simp
  | trim => cases h

/-! ### What is left of the monitor -/

namespace ConnectMonitor

/-- What the monitor answers to a call on an event. -/
def answer? (m : ConnectMonitor) : ConnectCall → Option Outcome
  | .kernelBegan e => some (m.kernelBegan e)
  | .callReturned e => some (m.callReturned e)
  | .stateChanged e => some (m.stateChanged e)
  | .dataSent e => some (m.dataSent e)
  | .trim .. => none

theorem answer?_eq (m : ConnectMonitor) (c : ConnectCall) :
    m.answer? c = c.impact?.map m.applied := by
  cases c with
  | kernelBegan e => exact congrArg some (m.kernelBegan_eq e)
  | callReturned e => exact congrArg some (m.callReturned_eq e)
  | stateChanged e => exact congrArg some (m.stateChanged_eq e)
  | dataSent e => exact congrArg some (m.dataSent_eq e)
  | trim => rfl

/-- Writing an attempt changes nothing exactly if it is there. -/
theorem put_eq_self_iff {m : ConnectMonitor} {a : Attempt} :
    m.put a = m ↔ m.find? a.tuple = some a := by
  constructor
  · intro h
    rw [← h, find?_put, if_pos rfl]
  · intro h
    rw [put, Table.insert_of_find? h]

variable {m m' : ConnectMonitor} {err : MonitorError}

/-- **The two ways to fail.** The event could not be read, and the monitor is as it was; or the
attempt under its tuple was written and refused the signal. -/
theorem applied_error {r : Except MonitorError Impact} (h : m.applied r = (m', .error err)) :
    (r = .error err ∧ m' = m) ∨
      ∃ i a cause, r = .ok i ∧ m.find? i.tuple = some a ∧
        (i.writes a).receive i.signal = .error cause ∧ err = .transition cause ∧
        m' = m.put (i.writes a) := by
  cases r with
  | error err' =>
    cases h
    exact .inl ⟨rfl, rfl⟩
  | ok i =>
    cases htarget : i.target (m.find? i.tuple) with
    | none =>
      rw [applied_of_none htarget] at h
      cases h
    | some b =>
      rw [applied_of_some htarget, settle, react] at h
      cases hb : b.receive i.signal with
      | ok reaction =>
        rw [hb] at h
        cases h
      | error cause =>
        rw [hb] at h
        cases h
        cases hslot : m.find? i.tuple with
        | none =>
          -- what the event opens is in progress, and refuses nothing
          rw [hslot] at htarget
          exact absurd (i.opening_state b htarget) (Attempt.ne_inProgress_of_receive hb)
        | some a =>
          rw [hslot] at htarget
          obtain rfl : i.writes a = b := by simpa [Impact.target] using htarget
          exact .inr ⟨i, a, cause, rfl, hslot, hb, rfl, rfl⟩

/-- A refused event that was read changes the attempt under its tuple, and that one is decided. -/
theorem Sound.refused_slot (hm : m.Sound) {i : Impact} {a : Attempt} {cause : TransitionError}
    (ha : m.find? i.tuple = some a) (hcause : (i.writes a).receive i.signal = .error cause) :
    a.state.isDecided = true ∧
      ∀ t, (m.put (i.writes a)).find? t = if i.tuple = t then some (i.writes a) else m.find? t := by
  refine ⟨?_, fun t ↦ ?_⟩
  · have hstate := Attempt.ne_inProgress_of_receive hcause
    rw [i.writes_state] at hstate
    have hopen := hm.isOpen _ a ha
    cases hs : a.state with
    | inProgress => exact absurd hs hstate
    | closed => exact absurd hs hopen
    | success => rfl
    | failure => rfl
  · rw [find?_put, i.writes_tuple, hm.tuple _ a ha]

/-- **What a refused event leaves behind**, in every run of a fresh monitor. An event that could not
be read leaves all as it was. One that was read and refused leaves all as it was exactly if there
was nothing new for it to write; and whatever it wrote, the attempts are open under the same tuples
as before, and any that it changed is decided and keeps its tuple, its beginning and its state. -/
theorem refused_unchanged_iff (calls : List ConnectCall) {c : ConnectCall}
    (h : (after calls).answer? c = some (m', .error err)) :
    ((∀ cause, err ≠ .transition cause) → m' = after calls) ∧
      (m' = after calls ↔ c.Repeats (after calls)) ∧
      ∀ t, m'.find? t = (after calls).find? t ∨
        ∃ a b, (after calls).find? t = some a ∧ m'.find? t = some b ∧ a.state.isDecided = true ∧
          b.tuple = a.tuple ∧ b.began = a.began ∧ b.lifecycle = a.lifecycle := by
  have hm : (after calls).Sound := sound_after calls
  generalize after calls = m at h hm ⊢
  rw [answer?_eq] at h
  obtain ⟨r, hr, h⟩ := Option.map_eq_some_iff.1 h
  rcases applied_error h with ⟨rfl, rfl⟩ | ⟨i, a, cause, rfl, ha, hcause, rfl, rfl⟩
  · refine ⟨fun _ ↦ rfl, iff_of_true rfl fun i a hi _ ↦ ?_, fun t ↦ .inl rfl⟩
    rw [hr] at hi
    cases hi
  · obtain ⟨hdecided, hfind⟩ := hm.refused_slot ha hcause
    refine ⟨fun hread ↦ absurd rfl (hread cause), ?_, fun t ↦ ?_⟩
    · have htuple : (i.writes a).tuple = i.tuple := by rw [i.writes_tuple, hm.tuple _ a ha]
      rw [put_eq_self_iff, htuple, ha]
      constructor
      · rintro hwritten j b hj hb
        obtain rfl : i = j := by simpa [hr] using hj
        obtain rfl : a = b := by simpa [ha] using hb
        exact (Option.some.inj hwritten).symm
      · intro hrepeats
        rw [hrepeats i a hr ha]
    · rw [hfind t]
      by_cases ht : i.tuple = t
      · subst ht
        obtain ⟨hbegan, hlifecycle⟩ := c.writes_keeps hr a
        exact .inr ⟨a, i.writes a, ha, if_pos rfl, hdecided, i.writes_tuple a, hbegan, hlifecycle⟩
      · exact .inl (if_neg ht)

/-- A second beginning of a connection that is established is refused. Where it repeats the time and
the error number that are known, it changes nothing. -/
theorem refused_unchanged_iff_repeated :
    let began : ConnectCall := .kernelBegan (.probed "tcp_connect" 20 [("retval", 0)])
    let entered : ConnectCall :=
      .stateChanged (.probed "tcp_set_state" 20 [("old_state", 2), ("new_state", 1)])
    let m := after [began, entered]
    let m' := (m.step began).1
    m.answer? began = some (m', .error (.transition (.unsupported .success .handshakeBegun))) ∧
      began.Repeats m ∧ m' = m := by
  intro began entered m m'
  have h : m.answer? began =
      some (m', .error (.transition (.unsupported .success .handshakeBegun))) := by decide
  have hopen : m.find? .sample =
      some { Attempt.start .sample 20 0 with lifecycle := ⟨.success, .inProgress⟩ } := by decide
  have hrepeats : began.Repeats m := by
    intro i a hi ha
    cases hi
    obtain rfl := Option.some.inj (hopen.symm.trans ha)
    rfl
  exact ⟨h, hrepeats, (refused_unchanged_iff [began, entered] h).2.1.2 hrepeats⟩

/-- A connect call that fails is refused by a connection that is established. Its time, its error
number and its process are written over what was known, all the same. -/
theorem refused_rewritten :
    let began : ConnectCall := .kernelBegan (.probed "tcp_connect" 10 [("retval", 0)])
    let entered : ConnectCall :=
      .stateChanged (.probed "tcp_set_state" 20 [("old_state", 2), ("new_state", 1)])
    let failed : ConnectCall := .callReturned {
      name := "connect"
      timestamp := 40
      context := some ⟨some { pid := 9, tid := 9, comm := "curl" },
        some { num := 3, transport := .tcp, srcIp := some ⟨1⟩, srcPort := 40000,
               dstIp := some ⟨2⟩, dstPort := 80 }⟩
      attributes := (∅ : Attributes).insert "res" (.int (-111)) }
    let m := after [began, entered]
    let m' := (m.step failed).1
    let a : Attempt :=
      { Attempt.start .sample 10 0 with ended := 20, lifecycle := ⟨.success, .inProgress⟩ }
    m.answer? failed = some (m', .error (.transition (.unsupported .success .callFailed))) ∧
      m.find? .sample = some a ∧
      m'.find? .sample = some { a with ended := 40, code := -111, pid := 9, comm := "curl" } ∧
      m' ≠ m := by
  decide

end ConnectMonitor

end SocketWatch
