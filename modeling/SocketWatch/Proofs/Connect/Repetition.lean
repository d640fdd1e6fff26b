import SocketWatch.Proofs.Connect.Errno
import SocketWatch.Proofs.Connect.Trim
/-!
# Events that are delivered again

Probes deliver an event at least once, so the monitor may be told the same thing several times in a
row. It keeps no record of what it was told, and an event does not leave it as it was: a socket that
leaves the established state first makes an attempt in progress a success, and told again it closes
the attempt. What is true is that the second time nothing is reported (`Sound.step_repeated`), and
from there on it is an induction.

Under each tuple there are two ways in which a repetition could report. The attempt could be decided
by the second signal, having passed the first one in progress; but whether a signal decides an
attempt in progress does not depend on how often it was sent (`Attempt.respond_repeated`). Or the
first signal could close the attempt and the second open another one; but the signals of the event
that opens attempts close none (`Impact.opening_eq_none`). For trimming it is the same argument, with
the signal that the socket table gives, so it is made for every call.
-/

namespace SocketWatch

namespace Attempt

variable {a a' b r : Attempt} {signal : Signal}

/-- What is reported is decided. -/
theorem isDecided_of_respond (h : r ∈ (a.respond signal).2) : r.state.isDecided = true := by
  have hresponse := a.respond_cases signal
  generalize a.respond signal = p at h hresponse
  cases hresponse with
  | stays => cases h
  | decides l _ hnew => exact List.mem_singleton.1 h ▸ hnew
  | closes => cases h

/-- A signal leaves the process, the tuple and the beginning of an attempt as they are. -/
theorem eq_of_respond (h : (a.respond signal).1 = some a') :
    ∃ l : Lifecycle, a' = { a with lifecycle := l } := by
  have hresponse := a.respond_cases signal
  generalize a.respond signal = p at h hresponse
  cases hresponse with
  | stays l => exact ⟨l, (Option.some.inj h).symm⟩
  | decides l => exact ⟨l, (Option.some.inj h).symm⟩
  | closes => cases h

/-- An attempt is gone only where the signal closes it. -/
theorem next_of_respond_eq_none (h : (a.respond signal).1 = none) :
    a.state.next signal = .ok .closed := by
  unfold respond receive Lifecycle.receive at h
  cases hs : a.lifecycle.current.next signal with
  | error err =>
    rw [hs] at h
    cases h
  | ok s =>
    simp only [hs, Except.map, ite_eq_left_iff, reduceCtorEq, imp_false, not_not] at h
    obtain rfl : s = .closed := of_decide_eq_true h
    exact hs

/-- **A signal that is sent again reports nothing**, whatever was written into the attempt in
between. -/
theorem respond_repeated (h : (a.respond signal).1 = some a') (hb : b.state = a'.state) :
    (b.respond signal).2 = [] := by
  refine List.eq_nil_iff_forall_not_mem.2 fun r hr ↦ ?_
  obtain ⟨hstate, -, hnext⟩ := respond_reported hr
  have hdecided := isDecided_of_respond hr
  rw [hstate] at hb hnext
  obtain ⟨-, ⟨rfl, hne⟩ | hfirst⟩ := respond_stored h
  · exact hne hb.symm
  · rw [← hb] at hfirst
    rcases AttemptState.next_cases hfirst with ⟨hsame, -⟩ | ⟨-, hnew⟩ | ⟨-, hclosed⟩
    · -- it was in progress before the first signal as well, and that one did not decide it
      rw [← hsame, hnext] at hfirst
      exact AttemptState.ne_inProgress hdecided (Except.ok.inj hfirst)
    · cases hnew
    · cases hclosed

/-- Trimming that is repeated at once reports nothing. -/
theorem trimmed_repeated (tables : UInt32 → Option SocketTable) (now secs : Nat)
    (slot : Option Attempt) :
    (trimmed tables now secs (trimmed tables now secs slot).1).2 = [] := by
  cases slot with
  | none => rfl
  | some a =>
    rcases trimmed_cases tables now secs a with h | ⟨signal, hsignal, h⟩
    · rw [h, h]
    · rw [h]
      cases hleft : (a.respond signal).1 with
      | none => rfl
      | some a' =>
        obtain ⟨l, hl⟩ := eq_of_respond hleft
        rcases trimmed_cases tables now secs a' with h' | ⟨signal', hsignal', h'⟩
        · rw [h']
        · -- the table of the same process says the same about the same tuple
          rw [hl] at hsignal'
          obtain rfl : signal = signal' := Option.some.inj (hsignal.symm.trans hsignal')
          rw [h']
          exact respond_repeated hleft rfl

end Attempt

/-- An event whose signal closes an attempt opens none. -/
theorem Impact.opening_eq_none {c : ConnectCall} {i : Impact} (h : c.impact? = some (.ok i))
    {s : AttemptState} (hclosed : s.next i.signal = .ok .closed) : i.opening = none := by
  cases c with
  | kernelBegan e =>
    obtain ⟨t, -, h⟩ := exists_of_bind_eq_ok (Option.some.inj h)
    obtain ⟨code, -, h⟩ := exists_of_bind_eq_ok h
    cases h
    -- neither beginning nor being refused closes anything
    replace hclosed : s.next (if code = 0 then .handshakeBegun else .handshakeRefused) =
      .ok .closed := hclosed
    split at hclosed <;> cases s <;> cases hclosed
  | callReturned e =>
    obtain ⟨code, -, h⟩ := exists_of_bind_eq_ok (Option.some.inj h)
    obtain ⟨t, -, h⟩ := exists_of_bind_eq_ok h
    cases h
    rfl
  | stateChanged e =>
    obtain ⟨t, -, h⟩ := exists_of_bind_eq_ok (Option.some.inj h)
    obtain ⟨old, -, h⟩ := exists_of_bind_eq_ok h
    obtain ⟨new, -, h⟩ := exists_of_bind_eq_ok h
    obtain ⟨signal, -, h⟩ := exists_of_bind_eq_ok h
    cases h
    rfl
  | dataSent e =>
    obtain ⟨t, -, h⟩ := exists_of_bind_eq_ok (Option.some.inj h)
    cases h
    rfl
  | trim => cases h

/-- An event that strikes a second time reports nothing. -/
theorem Impact.strike_repeated {c : ConnectCall} {i : Impact} (h : c.impact? = some (.ok i))
    (slot : Option Attempt) : (i.strike (i.strike slot).1).2 = [] := by
  cases htarget : i.target slot with
  | none =>
    obtain rfl := i.eq_none_of_target htarget
    simp only [strike, htarget]
  | some b =>
    rw [strike_of_some htarget]
    cases hleft : (b.respond i.signal).1 with
    | none =>
      have hopening : i.target none = none :=
        Impact.opening_eq_none h (Attempt.next_of_respond_eq_none hleft)
      simp only [strike, hopening]
    | some a =>
      have hagain : i.target (some a) = some (i.writes a) := rfl
      rw [strike_of_some hagain]
      exact Attempt.respond_repeated hleft (i.writes_state a)

/-- **A call that is repeated reports nothing**, under any tuple. -/
theorem ConnectCall.effect_repeated (c : ConnectCall) (t : FourTuple) (slot : Option Attempt) :
    (c.effect t (c.effect t slot).1).2 = [] := by
  have hevent : ∀ read, c.impact? = some read →
      (Impact.effect t (Impact.effect t slot read).1 read).2 = [] := by
    intro read hread
    cases read with
    | error err => rfl
    | ok i =>
      by_cases ht : i.tuple = t
      · simp only [Impact.effect, ht, if_true]
        exact Impact.strike_repeated hread slot
      · simp only [Impact.effect, ht, if_false]
  cases c with
  | kernelBegan e => exact hevent _ rfl
  | callReturned e => exact hevent _ rfl
  | stateChanged e => exact hevent _ rfl
  | dataSent e => exact hevent _ rfl
  | trim tables now secs => exact Attempt.trimmed_repeated tables now secs slot

namespace ConnectMonitor

variable {m : ConnectMonitor}

/-- **The second time nothing is reported.** -/
theorem Sound.step_repeated (hm : m.Sound) (c : ConnectCall) : ((m.step c).1.step c).2 = [] := by
  refine List.eq_nil_iff_forall_not_mem.2 fun r hr ↦ ?_
  have hmem : r ∈ ((m.step c).1.step c).2.filter (·.tuple = r.tuple) :=
    List.mem_filter.2 ⟨hr, decide_eq_true rfl⟩
  rw [(step_effect (hm.step c) c r.tuple).2, (step_effect hm c r.tuple).1,
    c.effect_repeated] at hmem
  cases hmem

/-- After a call has been made, repeating it reports nothing. -/
theorem Sound.run_replicate_step (hm : m.Sound) (c : ConnectCall) (n : Nat) :
    (Stepwise.run ConnectMonitor.step (m.step c).1 (List.replicate n c)).2 = [] := by
  induction n generalizing m with
  | zero => rfl
  | succ n ih =>
    rw [List.replicate_succ, Stepwise.run_cons, hm.step_repeated, ih (hm.step c)]
    rfl

theorem length_reports_le (o : Outcome) : o.reports.length ≤ 1 := Option.length_toList_le

/-- A call on an event reports one attempt at most. -/
theorem length_step_le (m : ConnectMonitor) {c : ConnectCall} (hc : c.isTrim = false) :
    (m.step c).2.length ≤ 1 := by
  cases c with
  | trim => cases hc
  | _ => exact length_reports_le _

/-- **Events may be delivered more than once.** In every run of a fresh monitor, an event that is
delivered any number of times in a row reports one attempt at most in all of them, and no more than
it reports when it is delivered once: what it reports the first time, and then nothing. -/
theorem delivered_again (calls : List ConnectCall) {c : ConnectCall} (hc : c.isTrim = false)
    (n : Nat) :
    let once := ((after calls).step c).2
    let repeated := (Stepwise.run step (after calls) (List.replicate n c)).2
    repeated.length ≤ 1 ∧ repeated.length ≤ once.length ∧ (0 < n → repeated = once) := by
  intro once repeated
  have hrest : ∀ k, (Stepwise.run step (after calls) (List.replicate (k + 1) c)).2 = once :=
    fun k ↦ by
      rw [List.replicate_succ, Stepwise.run_cons, (sound_after calls).run_replicate_step,
        List.append_nil]
  have hone : once.length ≤ 1 := (after calls).length_step_le hc
  cases n with
  | zero => exact ⟨Nat.zero_le 1, Nat.zero_le once.length, fun h ↦ absurd h (Nat.lt_irrefl 0)⟩
  | succ k =>
    have hsame : repeated = once := hrest k
    rw [hsame]
    exact ⟨hone, Nat.le_refl once.length, fun _ ↦ rfl⟩

/-- A socket that leaves the established state, told three times of an attempt in progress: the
first time it is reported as a success, the second time it is closed, the third time it is not there
any more. -/
theorem delivered_again_closed :
    let began : ConnectCall := .kernelBegan (.probed "tcp_connect" 10 [("retval", 0)])
    let left : ConnectCall :=
      .stateChanged (.probed "tcp_set_state" 30 [("old_state", 1), ("new_state", 4)])
    let a : Attempt :=
      { Attempt.start .sample 10 0 with ended := 30, lifecycle := ⟨.success, .inProgress⟩ }
    left.isTrim = false ∧
      (Stepwise.run step (after [began]) (List.replicate 3 left)).2 = [a] ∧
      (after [began, left]).find? .sample = some a ∧
      (after [began, left, left]).find? .sample = none := by
  intro began left a
  have hrepeated := (delivered_again [began] (c := left) rfl 3).2.2 (by decide)
  have honce : ((after [began]).step left).2 = [a] := by decide
  exact ⟨rfl, hrepeated.trans honce, by decide, by decide⟩

end ConnectMonitor

end SocketWatch
