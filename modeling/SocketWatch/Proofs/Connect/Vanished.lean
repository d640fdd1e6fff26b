import SocketWatch.Proofs.Connect.Trim
/-!
# Connections that vanish

A connection can go without a word to the probes: its process ends, or the socket is closed after
the events about it were lost. Then nothing closes its attempt but trimming, which finds no socket
in the table of the process, or no table, and takes the attempt for expired.

An attempt that is decided is over with that. One in progress is not: it becomes a failure, which is
reported, and stays open until trimming comes again and finds the socket gone a second time. So one
trimming is too few and two are enough (`vanished_cleared`). What the two make of an attempt is
followed under its tuple alone, where a trimming amounts to the signal `expired`; that any number of
other attempts are settled in the same walks, of the same process or of others, does not show there.
-/

namespace SocketWatch

namespace Attempt

variable {a : Attempt} {tables : UInt32 → Option SocketTable} {now secs : Nat}

/-- The socket of an attempt is gone: the table of its process cannot be read or has no such
socket. -/
def Vanished (tables : UInt32 → Option SocketTable) (a : Attempt) : Prop :=
  ∀ table, tables a.pid = some table →
    table.find? (a.tuple.source, a.tuple.destination) = none

/-- The attempt as a failure that was in progress before. -/
def failed (a : Attempt) : Attempt := { a with lifecycle := ⟨.failure, .inProgress⟩ }

theorem Vanished.tableSignal? (h : a.Vanished tables) :
    ConnectMonitor.tableSignal? (tables a.pid) a.tuple = some .expired := by
  have hgone : (tables a.pid).bind (·.find? (a.tuple.source, a.tuple.destination)) = none :=
    Option.bind_eq_none_iff.2 h
  simp only [ConnectMonitor.tableSignal?, hgone]

/-- **To trim what has vanished is to let it expire.** -/
theorem Vanished.trimmed (h : a.Vanished tables)
    (hover : ConnectMonitor.isOverdue now secs a = true) :
    Attempt.trimmed tables now secs (some a) = a.respond .expired := by
  simp only [Attempt.trimmed, if_pos hover, reconcile, h.tableSignal?]

/-- Once it has failed, an attempt has vanished as it had before. -/
theorem Vanished.failed (h : a.Vanished tables) : a.failed.Vanished tables := h

/-- What is overdue stays so, and it does not matter whether it has failed. -/
theorem isOverdue_failed {later : Nat} (hover : ConnectMonitor.isOverdue now secs a = true)
    (hlater : now ≤ later) : ConnectMonitor.isOverdue later secs a.failed = true := by
  obtain ⟨hpid, hspan⟩ := isOverdue_iff.1 hover
  exact isOverdue_iff.2 ⟨hpid, hspan.trans (Nat.sub_le_sub_right hlater _)⟩

/-- An attempt in progress expires into a failure, which is reported. -/
theorem respond_expired_of_inProgress (h : a.state = .inProgress) :
    a.respond .expired = (some a.failed, [a.failed]) := by
  obtain ⟨tuple, pid, comm, containerId, began, ended, code, ⟨current, last⟩⟩ := a
  obtain rfl : current = .inProgress := h
  rfl

/-- A decided attempt expires in silence. -/
theorem respond_expired_of_isDecided (h : a.state.isDecided = true) :
    a.respond .expired = (none, []) := by
  obtain ⟨tuple, pid, comm, containerId, began, ended, code, ⟨current, last⟩⟩ := a
  rcases AttemptState.isDecided_iff.1 h with hstate | hstate
  · obtain rfl : current = .success := hstate
    rfl
  · obtain rfl : current = .failure := hstate
    rfl

end Attempt

theorem AttemptState.isDecided_of_ne {s : AttemptState} (hprogress : s ≠ .inProgress)
    (hclosed : s ≠ .closed) : s.isDecided = true := by
  cases s with
  | inProgress => exact absurd rfl hprogress
  | closed => exact absurd rfl hclosed
  | success | failure => rfl

namespace ConnectMonitor

/-! ### One trimming -/

namespace Sound

variable {m : ConnectMonitor} {tables : UInt32 → Option SocketTable} {now secs : Nat}
  {t : FourTuple} {a : Attempt}

/-- Where nothing is open, trimming finds nothing. -/
theorem trim_absent (hm : m.Sound) (hnone : m.find? t = none) :
    (m.trim tables now secs).1.find? t = none ∧
      (m.trim tables now secs).2.filter (·.tuple = t) = [] := by
  have heffect := trim_effect tables hm now secs t
  rw [hnone] at heffect
  exact heffect

/-- What is overdue and has vanished expires. -/
theorem trim_vanished (hm : m.Sound) (ha : m.find? t = some a)
    (hover : isOverdue now secs a = true) (hgone : a.Vanished tables) :
    (m.trim tables now secs).1.find? t = (a.respond .expired).1 ∧
      (m.trim tables now secs).2.filter (·.tuple = t) = (a.respond .expired).2 := by
  have heffect := trim_effect tables hm now secs t
  rw [ha, hgone.trimmed hover] at heffect
  exact heffect

end Sound

/-! ### Two trimmings -/

/-- **Trimming twice clears what has vanished**, in every run of a fresh monitor. If an attempt of
a known process is overdue, and its socket is gone both times that trimming comes, then the attempt
is gone after the second time, and what was reported of it is one failure where it was in progress,
and nothing where it was decided before. -/
theorem vanished_cleared (calls : List ConnectCall) {tables tables' : UInt32 → Option SocketTable}
    {now later secs : Nat} {t : FourTuple} {a : Attempt} (ha : (after calls).find? t = some a)
    (hpid : a.pid ≠ 0) (hold : Time.ofSeconds secs ≤ now - a.began.toNat) (hlater : now ≤ later)
    (hfirst : a.Vanished tables) (hsecond : a.Vanished tables') :
    let first := (after calls).trim tables now secs
    let second := first.1.trim tables' later secs
    second.1.find? t = none ∧
      (first.2 ++ second.2).filter (·.tuple = t) =
        if a.state = .inProgress then [a.failed] else [] := by
  intro first second
  have hm : (after calls).Sound := sound_after calls
  have hm' : first.1.Sound := hm.step (.trim tables now secs)
  have hover : isOverdue now secs a = true := Attempt.isOverdue_iff.2 ⟨hpid, hold⟩
  obtain ⟨hleft, hreports⟩ := hm.trim_vanished ha hover hfirst
  by_cases hstate : a.state = .inProgress
  · -- the first time it fails, and the second time the failure is closed
    rw [Attempt.respond_expired_of_inProgress hstate] at hleft hreports
    have hover' : isOverdue later secs a.failed = true := Attempt.isOverdue_failed hover hlater
    obtain ⟨hleft', hreports'⟩ := hm'.trim_vanished hleft hover' hsecond.failed
    rw [Attempt.respond_expired_of_isDecided rfl] at hleft' hreports'
    rw [if_pos hstate, List.filter_append, hreports, hreports']
    exact ⟨hleft', rfl⟩
  · have hdecided := AttemptState.isDecided_of_ne hstate (hm.isOpen t a ha)
    rw [Attempt.respond_expired_of_isDecided hdecided] at hleft hreports
    obtain ⟨hleft', hreports'⟩ := hm'.trim_absent hleft
    rw [if_neg hstate, List.filter_append, hreports, hreports']
    exact ⟨hleft', rfl⟩

/-- An attempt in progress whose process has no readable table the first time, and a table without
sockets the second time, a second later. Another attempt of the process is established by then. -/
theorem vanished_cleared_unanswered :
    let began (port : Int64) : ConnectCall := .kernelBegan
      { Event.probed "tcp_connect" 10 [("retval", 0), ("sport", port)] with
        context := some ⟨some { pid := 9, tid := 9, comm := "curl" }, none⟩ }
    let calls := [began 40000, began 40001,
      .stateChanged (.probed "tcp_set_state" 20 [("sport", 40001), ("old_state", 2),
        ("new_state", 1)])]
    let a : Attempt := { Attempt.start .sample 10 0 with pid := 9, comm := "curl" }
    let first := (after calls).trim (fun _ ↦ none) 60000000010 60
    let second := first.1.trim (fun _ ↦ some ∅) 61000000010 60
    (after calls).find? .sample = some a ∧ a.pid ≠ 0 ∧
      Time.ofSeconds 60 ≤ 60000000010 - a.began.toNat ∧
      a.Vanished (fun _ ↦ none) ∧ a.Vanished (fun _ ↦ some ∅) ∧
      second.1.find? .sample = none ∧
      (first.2 ++ second.2).filter (·.tuple = .sample) = [a.failed] := by
  intro began calls a first second
  have ha : (after calls).find? .sample = some a := by decide
  have hpid : a.pid ≠ 0 := by decide
  have hold : Time.ofSeconds 60 ≤ 60000000010 - a.began.toNat := by decide
  have hfirst : a.Vanished (fun _ ↦ none) := by rintro table ⟨⟩
  have hsecond : a.Vanished (fun _ ↦ some ∅) := by
    rintro table ⟨⟩
    rfl
  exact ⟨ha, hpid, hold, hfirst, hsecond,
    vanished_cleared calls ha hpid hold (by decide) hfirst hsecond⟩

end ConnectMonitor

end SocketWatch
