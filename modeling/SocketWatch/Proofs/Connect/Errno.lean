import SocketWatch.Connect.Watcher
import SocketWatch.Proofs.Connect.Refusal
import SocketWatch.Proofs.Dialog.Report
import SocketWatch.Proofs.Dialog.Timing
/-!
# What the error number of a connection attempt says

Two events carry a return code, the kernel's connect and the return of a connect call, and each
writes it into the attempt it is about before it is known whether the attempt takes the signal. That
the error number of a report can be relied on rests on one invariant: an attempt that is still in
progress has none (`Attempt.Unmarked`). A return code that speaks of an error is written together
with a signal that decides every attempt in progress, and whatever is written later finds the
attempt decided, so it is not reported again (`ConnectCall.effect_unmarked`).

So a success is reported without an error number, and a failure has one exactly where one of the two
events told of it. What the socket tables settle has none (`errno_law`).
-/

namespace SocketWatch

/-! ### Return codes and signals -/

/-- Whether a call is about an event with a return code. -/
def ConnectCall.hasCode : ConnectCall → Bool
  | .kernelBegan _ | .callReturned _ => true
  | _ => false

/-- Whether a call settles what has been open for too long. -/
def ConnectCall.isTrim : ConnectCall → Bool
  | .trim .. => true
  | _ => false

/-- An attempt in progress has no error number. -/
def Attempt.Unmarked (a : Attempt) : Prop := a.state = .inProgress → a.code = 0

theorem ConnectMonitor.callSignal_cases (code : Int64) :
    (code = 0 ∧ callSignal code = .callSucceeded) ∨
      (code ≠ 0 ∧ (callSignal code = .callUndecided ∨ callSignal code = .callFailed)) := by
  unfold callSignal
  by_cases hcode : code = 0
  · exact .inl ⟨hcode, if_pos hcode⟩
  · rw [if_neg hcode]
    refine .inr ⟨hcode, ?_⟩
    split
    · exact .inl rfl
    · exact .inr rfl

namespace Attempt

variable {a a' r : Attempt} {signal : Signal}

@[simp] theorem withProcess_code (a : Attempt) (e : Event) : (a.withProcess e).code = a.code := by
  unfold withProcess
  cases e.thread <;> rfl

theorem receive_code {reaction : Reaction} (h : a.receive signal = .ok reaction) :
    reaction.attempt.code = a.code := by
  unfold receive at h
  cases hl : a.lifecycle.receive signal with
  | error err =>
    rw [hl] at h
    cases h
  | ok l =>
    rw [hl] at h
    cases h
    rfl

/-- A signal leaves the error number as it is. Only a refused one leaves the state without asking
the table. -/
theorem respond_stored (h : a' ∈ (a.respond signal).1) :
    a'.code = a.code ∧ (a' = a ∧ a.state ≠ .inProgress ∨ a.state.next signal = .ok a'.state) := by
  unfold respond at h
  cases hr : a.receive signal with
  | error cause =>
    rw [hr] at h
    obtain rfl : a = a' := Option.some.inj h
    exact ⟨rfl, .inl ⟨rfl, ne_inProgress_of_receive hr⟩⟩
  | ok reaction =>
    simp only [hr] at h
    split at h
    · cases h
    · obtain rfl : reaction.attempt = a' := Option.some.inj h
      exact ⟨receive_code hr, .inr (receive_state hr)⟩

/-- What is reported was in progress, and has the error number that was there then. -/
theorem respond_reported (h : r ∈ (a.respond signal).2) :
    a.state = .inProgress ∧ r.code = a.code ∧ a.state.next signal = .ok r.state := by
  have hreported : r ∈ (a.respond signal).1 ∧ a.state = .inProgress := by
    have hresponse := a.respond_cases signal
    generalize a.respond signal = p at h hresponse
    cases hresponse with
    | stays => cases h
    | decides l hold => exact ⟨by rw [List.mem_singleton.1 h]; rfl, hold⟩
    | closes => cases h
  obtain ⟨hcode, ⟨-, hne⟩ | hnext⟩ := respond_stored hreported.1
  · exact absurd hreported.2 hne
  · exact ⟨hreported.2, hcode, hnext⟩

end Attempt

/-! ### What is written before a signal -/

theorem Impact.target_cases (i : Impact) {slot : Option Attempt} {b : Attempt}
    (hb : i.target slot = some b) :
    (∃ a, slot = some a ∧ i.writes a = b ∧ a.state = b.state) ∨ i.opening = some b := by
  cases slot with
  | none => exact .inr hb
  | some a =>
    obtain rfl : i.writes a = b := Option.some.inj hb
    exact .inl ⟨a, rfl, rfl, (i.writes_state a).symm⟩

/-- **As long as it is in progress, the attempt that is sent a signal has an error number exactly if
the signal tells of a failure**; and the event has a return code then. -/
theorem ConnectCall.code_target {c : ConnectCall} {i : Impact} (h : c.impact? = some (.ok i))
    {slot : Option Attempt} (hslot : ∀ a ∈ slot, a.Unmarked) {b : Attempt}
    (hb : i.target slot = some b) (hstate : b.state = .inProgress) :
    (b.code ≠ 0 ↔ AttemptState.inProgress.next i.signal = .ok .failure) ∧
      (b.code ≠ 0 → c.hasCode = true) := by
  -- what an open attempt had before it was written
  have hold : ∀ a, slot = some a → a.state = b.state → a.code = 0 := fun a ha hsame ↦
    hslot a ha (hsame.trans hstate)
  cases c with
  | kernelBegan e =>
    obtain ⟨t, -, h⟩ := exists_of_bind_eq_ok (Option.some.inj h)
    obtain ⟨code, -, h⟩ := exists_of_bind_eq_ok h
    cases h
    have hcode : b.code = code := by
      rcases Impact.target_cases _ hb with ⟨a, -, rfl, -⟩ | hopening
      · rfl
      · rw [← Option.some.inj hopening, Attempt.withProcess_code]
        rfl
    refine ⟨?_, fun _ ↦ rfl⟩
    rw [hcode]
    by_cases hzero : code = 0
    · simp [hzero, AttemptState.next]
    · simp [hzero, AttemptState.next]
  | callReturned e =>
    obtain ⟨code, -, h⟩ := exists_of_bind_eq_ok (Option.some.inj h)
    obtain ⟨t, -, h⟩ := exists_of_bind_eq_ok h
    cases h
    obtain ⟨a, ha, rfl, hsame⟩ | hopening := Impact.target_cases _ hb
    · refine ⟨?_, fun _ ↦ rfl⟩
      have hzero := hold a ha hsame
      rcases ConnectMonitor.callSignal_cases code with ⟨-, hsignal⟩ | ⟨hne, hsignal | hsignal⟩
      · simp [hsignal, hzero, AttemptState.next]
      · simp [hsignal, hzero, AttemptState.next]
      · simp [hsignal, hne, AttemptState.next]
    · cases hopening
  | stateChanged e =>
    obtain ⟨t, -, h⟩ := exists_of_bind_eq_ok (Option.some.inj h)
    obtain ⟨old, -, h⟩ := exists_of_bind_eq_ok h
    obtain ⟨new, -, h⟩ := exists_of_bind_eq_ok h
    obtain ⟨signal, hsignal, h⟩ := exists_of_bind_eq_ok h
    cases h
    obtain ⟨a, ha, rfl, hsame⟩ | hopening := Impact.target_cases _ hb
    · have hzero : a.code = 0 := hold a ha hsame
      have hnext : AttemptState.inProgress.next signal = .ok .success := by
        unfold ConnectMonitor.stateSignal at hsignal
        split at hsignal
        · cases hsignal
          rfl
        · split at hsignal
          · cases hsignal
            rfl
          · cases hsignal
      simp [hzero, hnext]
    · cases hopening
  | dataSent e =>
    obtain ⟨t, -, h⟩ := exists_of_bind_eq_ok (Option.some.inj h)
    cases h
    obtain ⟨a, ha, rfl, hsame⟩ | hopening := Impact.target_cases _ hb
    · have hzero : a.code = 0 := hold a ha hsame
      simp [hzero, AttemptState.next]
    · cases hopening
  | trim => cases h

/-! ### What a call keeps, and what it reports -/

/-- What is known of the error number of a report, by the call that makes it. -/
structure Attempt.Marked (r : Attempt) (c : ConnectCall) : Prop where
  /-- A success has none. -/
  success : r.state = .success → r.code = 0
  /-- A failure has none exactly if the socket tables told of it. -/
  failure : r.state = .failure → (r.code = 0 ↔ c.isTrim = true)
  /-- It has one exactly if an event with a return code did. -/
  told : r.state = .failure → (r.code ≠ 0 ↔ c.hasCode = true)

/-- A signal keeps attempts in progress without an error number. -/
theorem Attempt.unmarked_of_respond {b a' : Attempt} {signal : Signal}
    (hb : b.state = .inProgress → b.state.next signal = .ok .inProgress → b.code = 0)
    (h : a' ∈ (b.respond signal).1) : a'.Unmarked := fun hstate ↦ by
  obtain ⟨hcode, ⟨rfl, hne⟩ | hnext⟩ := Attempt.respond_stored h
  · exact absurd hstate hne
  · rw [hcode]
    rw [hstate] at hnext
    -- no signal leads back to an attempt in progress
    rcases AttemptState.next_cases hnext with ⟨hsame, -⟩ | ⟨-, hdecided⟩ | ⟨-, hclosed⟩
    · exact hb hsame.symm hnext
    · cases hdecided
    · cases hclosed

theorem ConnectCall.strike_unmarked {c : ConnectCall} {i : Impact} (h : c.impact? = some (.ok i))
    {slot : Option Attempt} (hslot : ∀ a ∈ slot, a.Unmarked) :
    (∀ a ∈ (i.strike slot).1, a.Unmarked) ∧ ∀ r ∈ (i.strike slot).2, r.Marked c := by
  cases htarget : i.target slot with
  | none =>
    rw [Impact.strike, htarget]
    exact ⟨fun _ ha ↦ (by cases ha), fun _ hr ↦ (by cases hr)⟩
  | some b =>
    rw [Impact.strike_of_some htarget]
    refine ⟨fun a' ha' ↦ Attempt.unmarked_of_respond (fun hstate hnext ↦ ?_) ha', fun r hr ↦ ?_⟩
    · have hcode := (c.code_target h hslot htarget hstate).1
      rw [← hstate, hnext] at hcode
      simpa using hcode
    · obtain ⟨hstate, hcode, hnext⟩ := Attempt.respond_reported hr
      obtain ⟨htells, hhas⟩ := c.code_target h hslot htarget hstate
      rw [hstate] at hnext
      rw [hnext, Except.ok.injEq, ← hcode] at htells
      rw [← hcode] at hhas
      have htrim : c.isTrim = false := by
        cases c with
        | trim => cases h
        | _ => rfl
      refine ⟨fun hsuccess ↦ ?_, fun hfailure ↦ ?_, fun hfailure ↦ ?_⟩
      · simpa [hsuccess] using htells
      · simpa [hfailure, htrim] using htells
      · have hne : r.code ≠ 0 := htells.2 hfailure
        exact iff_of_true hne (hhas hne)

theorem Attempt.trimmed_unmarked (tables : UInt32 → Option SocketTable) (now secs : Nat)
    {slot : Option Attempt} (hslot : ∀ a ∈ slot, a.Unmarked) :
    (∀ a ∈ (Attempt.trimmed tables now secs slot).1, a.Unmarked) ∧
      ∀ r ∈ (Attempt.trimmed tables now secs slot).2, r.code = 0 := by
  have hkept : (∀ a ∈ slot, a.Unmarked) ∧ ∀ r ∈ ([] : List Attempt), r.code = 0 :=
    ⟨hslot, fun _ hr ↦ (by cases hr)⟩
  cases slot with
  | none => exact hkept
  | some a =>
    have ha : a.Unmarked := hslot a rfl
    unfold Attempt.trimmed Attempt.reconcile
    simp only
    split
    · split
      · exact hkept
      · refine ⟨fun a' ha' ↦ Attempt.unmarked_of_respond (fun hstate _ ↦ ha hstate) ha',
          fun r hr ↦ ?_⟩
        obtain ⟨hstate, hcode, -⟩ := Attempt.respond_reported hr
        rw [hcode, ha hstate]
    · exact hkept

/-- **Every call keeps attempts in progress without an error number**, and what it reports has one
or not as it should. -/
theorem ConnectCall.effect_unmarked (c : ConnectCall) (t : FourTuple) {slot : Option Attempt}
    (hslot : ∀ a ∈ slot, a.Unmarked) :
    (∀ a ∈ (c.effect t slot).1, a.Unmarked) ∧ ∀ r ∈ (c.effect t slot).2, r.Marked c := by
  have hevent : ∀ read, c.impact? = some read →
      (∀ a ∈ (Impact.effect t slot read).1, a.Unmarked) ∧
        ∀ r ∈ (Impact.effect t slot read).2, r.Marked c := by
    intro read hread
    have hkept : (∀ a ∈ slot, a.Unmarked) ∧ ∀ r ∈ ([] : List Attempt), r.Marked c :=
      ⟨hslot, fun _ hr ↦ (by cases hr)⟩
    cases read with
    | error err => exact hkept
    | ok i =>
      rw [Impact.effect]
      split
      · exact c.strike_unmarked hread hslot
      · exact hkept
  cases c with
  | kernelBegan e => exact hevent _ rfl
  | callReturned e => exact hevent _ rfl
  | stateChanged e => exact hevent _ rfl
  | dataSent e => exact hevent _ rfl
  | trim tables now secs =>
    obtain ⟨hstored, hreports⟩ := Attempt.trimmed_unmarked tables now secs hslot
    refine ⟨hstored, fun r hr ↦ ⟨fun _ ↦ hreports r hr, fun _ ↦ ?_, fun _ ↦ ?_⟩⟩
    · exact iff_of_true (hreports r hr) rfl
    · exact iff_of_false (fun hne ↦ hne (hreports r hr)) Bool.false_ne_true

namespace ConnectMonitor

/-- What is known of a monitor between calls: it is sound, and no attempt in progress has an error
number. -/
structure Unmarked (m : ConnectMonitor) : Prop where
  /-- The monitor is sound. -/
  sound : m.Sound
  /-- No attempt in progress has an error number. -/
  unmarked : ∀ t a, m.find? t = some a → a.Unmarked

variable {m : ConnectMonitor}

theorem unmarked_empty : Unmarked {} := ⟨sound_empty, fun _ _ h ↦ (by cases h)⟩

theorem Unmarked.step (hm : m.Unmarked) (c : ConnectCall) : (m.step c).1.Unmarked where
  sound := hm.sound.step c
  unmarked t a ha := by
    rw [(step_effect hm.sound c t).1] at ha
    exact (c.effect_unmarked t (hm.unmarked t)).1 a ha

theorem Unmarked.marked (hm : m.Unmarked) {c : ConnectCall} {r : Attempt} (hr : r ∈ (m.step c).2) :
    r.Marked c := by
  have hmem : r ∈ (m.step c).2.filter (·.tuple = r.tuple) :=
    List.mem_filter.2 ⟨hr, decide_eq_true rfl⟩
  rw [(step_effect hm.sound c r.tuple).2] at hmem
  exact (c.effect_unmarked r.tuple (hm.unmarked r.tuple)).2 r hmem

end ConnectMonitor

/-! ### The watcher -/

/-- What a connect watcher is asked to do. -/
inductive ConnectWatcher.Call where
  /-- Take in an event. -/
  | event (e : Event)
  /-- Settle what has been open for too long at a time, against the socket tables of that time. -/
  | trim (tables : UInt32 → Option SocketTable) (now : Nat)

namespace ConnectWatcher

variable (w : ConnectWatcher) {m : ConnectMonitor} {x : Record}

/-- What a call does to the monitor, and the records it publishes. -/
def step (m : ConnectMonitor) : Call → ConnectMonitor × List Record
  | .event e => w.consume m e
  | .trim tables now => w.trim m tables now

/-- A fresh monitor after calls. -/
def after (calls : List Call) : ConnectMonitor := (Stepwise.run w.step {} calls).1

/-- What the monitor is asked to do with an event; nothing for an event that tells it nothing. -/
def asked? (e : Event) : Option ConnectCall :=
  match e.name with
  | "connect" => if e.isTcp then some (.callReturned e) else none
  | "tcp_connect" => some (.kernelBegan e)
  | "tcp_set_state" => some (.stateChanged e)
  | name =>
    if (name = "write" || name = "writev" || name = "sendmsg" || name = "sendto") && isUse e then
      some (.dataSent e)
    else none

theorem consume_eq (m : ConnectMonitor) (e : Event) :
    w.consume m e =
      (asked? e).elim (m, []) fun c ↦ ((m.step c).1, (m.step c).2.map w.record) := by
  show ((observe m e).1, (observe m e).2.toList.map w.record) = _
  unfold observe asked?
  generalize e.name = name
  split
  · simp only
    split <;> rfl
  · rfl
  · rfl
  · simp only
    split <;> rfl

/-- Only two events have a return code, and they have their own names. -/
theorem hasCode_of_asked? {e : Event} {c : ConnectCall} (h : asked? e = some c) :
    (c.hasCode = true ↔ e.name = "tcp_connect" ∨ e.name = "connect") ∧ c.isTrim = false := by
  unfold asked? at h
  split at h
  · rename_i hname
    split at h
    · cases h
      exact ⟨iff_of_true rfl (.inr hname), rfl⟩
    · cases h
  · rename_i hname
    cases h
    exact ⟨iff_of_true rfl (.inl hname), rfl⟩
  · rename_i hname
    cases h
    rw [hname]
    exact ⟨iff_of_false Bool.false_ne_true (by decide), rfl⟩
  · rename_i hconnect hkernel _
    split at h
    · cases h
      exact ⟨iff_of_false Bool.false_ne_true (not_or.2 ⟨hkernel, hconnect⟩), rfl⟩
    · cases h

/-! ### Records -/

/-- What stands behind NAT is under names of its own. -/
theorem find?_putNatTarget {name : String} (hname : name ∉ Label.ofTranslation) (a : Attributes)
    (t : FourTuple) : (w.putNatTarget a t).find? name = a.find? name := by
  have hip : Label.dnatIp ≠ name := fun heq ↦ hname (heq ▸ by decide)
  have hport : Label.dnatPort ≠ name := fun heq ↦ hname (heq ▸ by decide)
  unfold putNatTarget
  split <;> rw [Attributes.find?_putInt, if_neg hport, Attributes.find?_putText, if_neg hip]

/-- The labels of the outcome. -/
theorem find?_labels (a : Attempt) :
    (w.labels a).find? Label.success = some (.bool (a.state = .success)) ∧
      (w.labels a).find? Label.errno = some (.int a.code) := by
  have hcode : Int64.ofInt a.code.toInt = a.code := Int64.ofInt_toInt a.code
  constructor
  · rw [labels, find?_putNatTarget w (by decide)]
    simp only [Attributes.find?_putInt, Attributes.find?_putText, Attributes.find?_putBool]
    rfl
  · rw [labels, find?_putNatTarget w (by decide)]
    simp only [Attributes.find?_putInt, Attributes.find?_putText, Attributes.find?_putBool, hcode]
    rfl

/-- A record has a duration exactly if the attempt succeeded. -/
theorem gauge?_record (a : Attempt) :
    (w.record a).gauge? Gauge.connectDuration =
      if a.state = .success then some a.duration else none := by
  unfold record
  by_cases hstate : a.state = .success
  · have hnames : [Gauge.connectCount, Gauge.connectDuration].Nodup := by decide
    rw [if_pos hstate, if_pos hstate]
    exact Record.gauge?_setAll _ hnames (List.mem_cons_of_mem _ (List.mem_singleton_self _))
  · rw [if_neg hstate, if_neg hstate, Record.gauge?_setAll_of_notMem _ (by decide)]
    rfl

/-! ### Runs -/

theorem unmarked_step (hm : m.Unmarked) (c : Call) : (w.step m c).1.Unmarked := by
  cases c with
  | event e =>
    show (w.consume m e).1.Unmarked
    rw [consume_eq]
    cases asked? e with
    | none => exact hm
    | some c => exact hm.step c
  | trim tables now => exact hm.step (.trim tables now w.settings.waitSecs)

theorem unmarked_after (calls : List Call) : (w.after calls).Unmarked :=
  Stepwise.run_invariant (I := ConnectMonitor.Unmarked) (s := {})
    (fun _ c hm ↦ w.unmarked_step hm c) ConnectMonitor.unmarked_empty calls

/-- A record is of an attempt that the monitor reports, and the call tells what kind of event it was
about. -/
theorem exists_marked_of_mem_step (hm : m.Unmarked) {c : Call} (hx : x ∈ (w.step m c).2) :
    ∃ a c', x = w.record a ∧ a.state.isDecided = true ∧ a.Marked c' ∧
      (c'.isTrim = true ↔ ∃ tables now, c = .trim tables now) ∧
      (c'.hasCode = true ↔ ∃ e, c = .event e ∧ (e.name = "tcp_connect" ∨ e.name = "connect")) := by
  cases c with
  | event e =>
    replace hx : x ∈ (w.consume m e).2 := hx
    rw [consume_eq] at hx
    cases hasked : asked? e with
    | none =>
      rw [hasked] at hx
      cases hx
    | some c' =>
      rw [hasked] at hx
      obtain ⟨a, ha, rfl⟩ := List.mem_map.1 hx
      obtain ⟨hcode, htrim⟩ := hasCode_of_asked? hasked
      refine ⟨a, c', rfl, (hm.sound.of_mem_reports ha).1, hm.marked ha, ?_, ?_⟩
      · simp [htrim]
      · simp [hcode]
  | trim tables now =>
    obtain ⟨a, ha, rfl⟩ := List.mem_map.1 hx
    replace ha : a ∈ (m.step (.trim tables now w.settings.waitSecs)).2 := ha
    refine ⟨a, _, rfl, (hm.sound.of_mem_reports ha).1, hm.marked ha, ?_, ?_⟩
    · simp [ConnectCall.isTrim]
    · simp [ConnectCall.hasCode]

/-- **The law of the error number**, for every record that any sequence of calls makes a fresh
connect watcher publish. It is about a success or a failure. A success has the error number 0 and a
duration. A failure has no duration; its error number is 0 exactly if the socket tables told of it,
and any other one exactly if a connect event or the return of a connect call did. -/
theorem errno_law (earlier : List Call) (c : Call) :
    ∀ x ∈ (w.step (w.after earlier) c).2,
      (x.labels.find? Label.success = some (.bool true) ∨
        x.labels.find? Label.success = some (.bool false)) ∧
      (x.labels.find? Label.success = some (.bool true) →
        x.labels.find? Label.errno = some (.int 0) ∧
          ∃ duration, x.gauge? Gauge.connectDuration = some duration) ∧
      (x.labels.find? Label.success = some (.bool false) →
        x.gauge? Gauge.connectDuration = none ∧
        (x.labels.find? Label.errno = some (.int 0) ↔ ∃ tables now, c = .trim tables now) ∧
        ((∃ code, code ≠ 0 ∧ x.labels.find? Label.errno = some (.int code)) ↔
          ∃ e, c = .event e ∧ (e.name = "tcp_connect" ∨ e.name = "connect"))) := by
  intro x hx
  obtain ⟨a, c', rfl, hdecided, hmarked, htrim, hcode⟩ :=
    w.exists_marked_of_mem_step (w.unmarked_after earlier) hx
  obtain ⟨hsuccess, herrno⟩ := w.find?_labels a
  have hduration := w.gauge?_record a
  rw [show (w.record a).labels = w.labels a from Record.labels_setAll _ _, hsuccess, herrno,
    hduration, ← htrim, ← hcode]
  rcases AttemptState.isDecided_iff.1 hdecided with hstate | hstate
  · simp [hstate, hmarked.success hstate]
  · have hzero := hmarked.failure hstate
    have htold := hmarked.told hstate
    simp [hstate, hzero, ← htold]

/-- A connection that is refused is a failure without a duration, and its record says why. -/
theorem errno_law_refused :
    let w : ConnectWatcher := {}
    let refused : Call := .event (.probed "tcp_connect" 20 [("retval", -111)])
    let x := w.record
      { Attempt.start .sample 20 (-111) with lifecycle := ⟨.failure, .inProgress⟩ }
    x ∈ (w.step (w.after []) refused).2 ∧
      x.labels.find? Label.success = some (.bool false) ∧
      x.gauge? Gauge.connectDuration = none ∧
      ∃ code, code ≠ 0 ∧ x.labels.find? Label.errno = some (.int code) := by
  intro w refused x
  have hx : x ∈ (w.step (w.after []) refused).2 := by decide
  have hfailed : x.labels.find? Label.success = some (.bool false) := by decide
  obtain ⟨-, -, hfailure⟩ := w.errno_law [] refused x hx
  obtain ⟨hduration, -, htold⟩ := hfailure hfailed
  exact ⟨hx, hfailed, hduration, htold.2 ⟨_, rfl, .inl rfl⟩⟩

end ConnectWatcher

end SocketWatch
