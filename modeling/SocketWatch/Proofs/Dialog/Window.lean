import SocketWatch.Proofs.Dialog.History
/-!
# The window of a phase

The first event of a connect or request phase opens a window: what comes within the timeout after
it began, and from the same source port, belongs to the phase. An event outside of the window is
meant to begin a new dialog. `Burst.isTimeout` is the test, and `isTimeout_iff` says what it tests:
an event outside of the window, unless it ended before the phase began, for such an event is never
late, and its port is not looked at either.

So the events of a phase are in its window (`merged_in_window`), with one exception: on a connected
descriptor, whose key does not tell the port, an event that arrives late from the time before the
phase is taken in whatever its port (`stray_joined`). The window says nothing about the first event
itself, whose own latency may be longer than the timeout.
-/

namespace SocketWatch

/-- Seconds within which events of a phase belong together; to responses no limit is set. -/
def NetworkSettings.mergeSecs? (s : NetworkSettings) : Phase → Option Nat
  | .connect => some s.connectTimeoutSecs
  | .request => some s.requestTimeoutSecs
  | .response => none

/-- The window that the first event of a phase opens. -/
structure Event.InWindow (first : Event) (secs : Nat) (e : Event) : Prop where
  /-- An event in it ended no later than so many seconds after the first one began. -/
  time : e.timestamp.toNat ≤ first.startTime + secs * 1000000000
  /-- It has the same source port. -/
  port : e.srcPort = first.srcPort

instance (first : Event) (secs : Nat) (e : Event) : Decidable (first.InWindow secs e) :=
  decidable_of_iff
    (e.timestamp.toNat ≤ first.startTime + secs * 1000000000 ∧ e.srcPort = first.srcPort)
    ⟨fun h ↦ ⟨h.1, h.2⟩, fun h ↦ ⟨h.time, h.port⟩⟩

/-- An event that the test overlooks: on a connected descriptor, from before the first event
began. -/
def DialogKey.Overlooks (k : DialogKey) (first e : Event) : Prop :=
  k.isUdp = false ∧ e.timestamp.toNat < first.startTime

instance (k : DialogKey) (first e : Event) : Decidable (k.Overlooks first e) :=
  inferInstanceAs (Decidable (_ ∧ _))

/-! ### The test -/

/-- **What the test tests.** That spans longer than 64 bits are cut off makes no difference, because
no two times are that far apart. -/
theorem Burst.isTimeout_iff (b : Burst) (e : Event) (secs : Nat) :
    b.isTimeout e secs = true ↔
      b.first.startTime ≤ e.timestamp.toNat ∧ ¬ b.first.InWindow secs e := by
  have hword : e.timestamp.toNat < Word.count 64 := e.timestamp.toNat_lt
  have hlate : Time.ofSeconds secs < e.timestamp.toNat - b.first.startTime ↔
      b.first.startTime + secs * 1000000000 < e.timestamp.toNat := by
    rw [Time.ofSeconds_lt_iff (by omega)]
    omega
  have hwindow : b.first.InWindow secs e ↔
      e.timestamp.toNat ≤ b.first.startTime + secs * 1000000000 ∧ e.srcPort = b.first.srcPort :=
    ⟨fun h ↦ ⟨h.time, h.port⟩, fun h ↦ ⟨h.1, h.2⟩⟩
  rw [hwindow]
  unfold isTimeout
  split
  · rename_i hbefore
    simp only [Bool.false_eq_true, false_iff, not_and]
    intro h
    omega
  · rename_i hafter
    rw [Bool.or_eq_true, decide_eq_true_iff, decide_eq_true_iff, hlate, not_and_or, Nat.not_le,
      and_iff_right (Nat.le_of_not_lt hafter)]

variable {settings : NetworkSettings} {p : Phase} {secs : Nat} {e : Event}

namespace Slot

/-- An event outside of the window of its phase that ended after the phase began ends the dialog. -/
theorem isSuperseded_of_isTimeout {d : Dialog} {b : Burst} (hp : settings.mergeSecs? p = some secs)
    (hb : d.get p = some b) (h : b.isTimeout e secs = true) :
    isSuperseded settings d p e = true := by
  cases p with
  | connect =>
    obtain rfl := Option.some.inj hp
    have hconnect : d.connect = some b := hb
    simp [isSuperseded, DialogStore.supersededByConnect, hconnect, h]
  | request =>
    obtain rfl := Option.some.inj hp
    have hrequest : d.request = some b := hb
    simp [isSuperseded, DialogStore.supersededByRequest, hrequest, h]
  | response => cases hp

theorem take_of_superseded {o : OpenDialog} (h : isSuperseded settings o.dialog p e = true) :
    take settings (some o) p e = (some (.ofEvent p e settings.payloadLimit), [o.dialog]) :=
  if_pos h

end Slot

/-! ### The events of a dialog -/

/-- In each phase the events after the first one are in its window, or ended before it began. -/
def Share.Windowed (settings : NetworkSettings) (shares : List Share) : Prop :=
  ∀ p secs, settings.mergeSecs? p = some secs →
    ∀ first later, eventsOf p shares = first :: later →
      ∀ e ∈ later, first.InWindow secs e ∨ e.timestamp.toNat < first.startTime

namespace Share

theorem windowed_nil : Windowed settings [] := fun _ _ _ _ _ h ↦ by cases h

theorem windowed_singleton (q : Phase) (e : Event) : Windowed settings [(q, e)] := by
  intro p secs _ first later hevents
  have hone := eventsOf_concat p q [] e
  rw [List.nil_append, hevents] at hone
  -- the one event is the first event of its phase
  have hlater : later = [] := by
    by_cases hq : q = p
    · rw [if_pos hq] at hone
      exact (List.cons.inj hone).2
    · rw [if_neg hq] at hone
      cases hone
  rw [hlater]
  exact fun e' he' ↦ absurd he' List.not_mem_nil

/-- An event that does not end the dialog is in the window of its phase, or ended before that
began. -/
theorem Windowed.concat {shares : List Share} (h : Windowed settings shares)
    (hin : Slot.isSuperseded settings (.ofShares settings.payloadLimit shares) p e = false) :
    Windowed settings (shares ++ [(p, e)]) := by
  intro q secs hq first later hevents
  rw [eventsOf_concat] at hevents
  by_cases hpq : p = q
  · subst hpq
    rw [if_pos rfl] at hevents
    cases hold : eventsOf p shares with
    | nil =>
      rw [hold] at hevents
      rw [← (List.cons.inj hevents).2]
      exact fun e' he' ↦ absurd he' List.not_mem_nil
    | cons first' later' =>
      rw [hold] at hevents
      obtain ⟨rfl, rfl⟩ := List.cons.inj hevents
      intro e' he'
      rcases List.mem_append.1 he' with he' | he'
      · exact h p secs hq first' later' hold e' he'
      · obtain rfl := List.mem_singleton.1 he'
        obtain ⟨-, b, hget, -, rfl⟩ :=
          (Dialog.madeOf_ofShares settings.payloadLimit shares).exists_get hold
        -- the test let the event in
        by_contra hout
        rw [not_or, Nat.not_lt] at hout
        have hlate := (b.isTimeout_iff e' secs).2 ⟨hout.2, hout.1⟩
        rw [Slot.isSuperseded_of_isTimeout hq hget hlate] at hin
        cases hin
  · rw [if_neg hpq, List.append_nil] at hevents
    exact h q secs hq first later hevents

theorem Windowed.of_gathering {shares after : List Share} {finished : List (List Share)}
    (hgathering : Slot.Gathering settings shares after finished) (h : Windowed settings shares) :
    Windowed settings after := by
  cases hgathering with
  | kept => exact h
  | begun _ e => exact windowed_singleton _ e
  | joined _ hin _ => exact h.concat hin
  | superseded _ _ e => exact windowed_singleton _ e
  | reaped => exact windowed_nil

end Share

/-- The key of a datagram tells its source port. -/
theorem DialogKey.srcPort_of_isUdp {e e' : Event} (h : ofEvent e = ofEvent e')
    (hudp : (ofEvent e).isUdp = true) : e.srcPort = e'.srcPort := by
  unfold ofEvent at h hudp
  split at h
  · split at h
    · exact (DialogKey.udp.inj h).2.2.2.2.1
    · cases h
  · rename_i hno
    rw [if_neg hno] at hudp
    cases hudp

/-- On a datagram descriptor nothing is overlooked: an event of the same key has the same port. -/
theorem Event.inWindow_or_overlooks {first : Event} (hkey : DialogKey.ofEvent e = .ofEvent first)
    (h : first.InWindow secs e ∨ e.timestamp.toNat < first.startTime) :
    first.InWindow secs e ∨ (DialogKey.ofEvent first).Overlooks first e := by
  rcases h with h | h
  · exact .inl h
  · cases hudp : (DialogKey.ofEvent first).isUdp with
    | false => exact .inr ⟨hudp, h⟩
    | true =>
      rw [← hkey] at hudp
      exact .inl ⟨by omega, DialogKey.srcPort_of_isUdp hkey hudp⟩

namespace NetworkWatcher

variable {w : NetworkWatcher} {k : DialogKey} {calls : List NetworkCall}

/-- An event that the test finds too late, or from another port, begins a new dialog. -/
theorem storeStep_of_isTimeout {o : OpenDialog}
    (ho : (w.storeAfter calls).entries.find? k = some o)
    (hp : w.settings.mergeSecs? p = some secs) {b : Burst} (hb : o.dialog.get p = some b)
    (hkey : .ofEvent e = k) (hphase : e.phase? w.admitUdp = some p)
    (hlate : b.isTimeout e secs = true) :
    let next := w.storeStep (w.storeAfter calls) (.consume e)
    next.1.entries.find? k = some (.ofEvent p e w.settings.payloadLimit) ∧
      next.2 = [o.dialog] := by
  intro next
  have hs := w.sound_storeAfter calls
  have htake := Slot.take_of_superseded (Slot.isSuperseded_of_isTimeout hp hb hlate)
  refine ⟨?_, ?_⟩
  · have hfind : next.1.entries.find? k = _ := DialogStore.find?_step hs (.consume e) k
    rw [hfind, ho, Slot.step_consume hkey hphase, htake]
  · have hnext : next = _ := DialogStore.consume_eq hs hphase
    rw [hnext, hkey, ho, htake]

/-- **The events of a phase are in its window.** Of the dialog that is open under a key after any
run, every event of the connect or request phase after the first one is in the window that the
first one opened, or was overlooked. And the next event of such a phase, if it is outside of the
window and is not overlooked, begins a new dialog. -/
theorem merged_in_window (w : NetworkWatcher) (calls : List NetworkCall) {k : DialogKey}
    {o : OpenDialog} (ho : (w.storeAfter calls).entries.find? k = some o) {p : Phase} {secs : Nat}
    (hp : w.settings.mergeSecs? p = some secs) {b : Burst} (hb : o.dialog.get p = some b) :
    o.dialog = .ofShares w.settings.payloadLimit (w.openShares k calls) ∧
      ∃ later, Share.eventsOf p (w.openShares k calls) = b.first :: later ∧
        (∀ e ∈ later, b.first.InWindow secs e ∨ k.Overlooks b.first e) ∧
        ∀ e, .ofEvent e = k → e.phase? w.admitUdp = some p → ¬ b.first.InWindow secs e →
          ¬ k.Overlooks b.first e →
            let next := w.storeStep (w.storeAfter calls) (.consume e)
            next.1.entries.find? k = some (.ofEvent p e w.settings.payloadLimit) ∧
              next.2 = [o.dialog] := by
  have hdialog : o.dialog = .ofShares w.settings.payloadLimit (w.openShares k calls) := by
    rw [eq_ofShares_of_find? ho]
  have hmade : o.dialog.MadeOf (w.openShares k calls) := by
    rw [hdialog]
    exact Dialog.madeOf_ofShares _ _
  have hwindowed : Share.Windowed w.settings (w.openShares k calls) :=
    openShares_invariant Share.windowed_nil (fun _ _ _ h hs ↦ hs.of_gathering h) k calls
  obtain ⟨later, hevents⟩ := hmade.eventsOf_of_get hb
  -- all of these events are of the key
  have hkey : ∀ e ∈ b.first :: later, DialogKey.ofEvent e = k := by
    intro e he
    rw [← hevents, Share.mem_eventsOf] at he
    exact ofEvent_of_mem_openShares he
  have hfirst := hkey b.first List.mem_cons_self
  refine ⟨hdialog, later, hevents, fun e he ↦ ?_, fun e hek hphase hout hseen ↦ ?_⟩
  · have hsame := hkey e (List.mem_cons_of_mem _ he)
    rw [← hfirst] at hsame ⊢
    exact Event.inWindow_or_overlooks hsame (hwindowed p secs hp b.first later hevents e he)
  · refine storeStep_of_isTimeout ho hp hb hek hphase ((b.isTimeout_iff e secs).2 ⟨?_, hout⟩)
    by_contra hbefore
    rw [← hfirst] at hek hseen
    exact (Event.inWindow_or_overlooks hek (.inr (Nat.lt_of_not_le hbefore))).elim hout hseen

/-- A connect that is retried in time belongs to the dialog; one that is retried too late begins a
new one. -/
theorem merged_in_window_retried :
    let w : NetworkWatcher := .ofSettings {} .none
    let first : Event := .sample "connect" 1000000000
    let again : Event := .sample "connect" 1500000000
    let late : Event := .sample "connect" 2000000001
    let calls : List NetworkCall := [.consume first, .consume again]
    let o := (OpenDialog.ofEvent .connect first 80).merge .connect again
    (w.storeAfter calls).entries.find? (.tcp 7 5) = some o ∧
      w.settings.mergeSecs? .connect = some 1 ∧
      o.dialog.get .connect = some ((Burst.ofEvent first 80).merge again) ∧
      o.dialog = .ofShares 80 (w.openShares (.tcp 7 5) calls) ∧
      (first.InWindow 1 again ∨ (DialogKey.tcp 7 5).Overlooks first again) ∧
      (w.storeStep (w.storeAfter calls) (.consume late)).1.entries.find? (.tcp 7 5) =
        some (.ofEvent .connect late 80) ∧
      (w.storeStep (w.storeAfter calls) (.consume late)).2 = [o.dialog] := by
  intro w first again late calls o
  have hfind : (w.storeAfter calls).entries.find? (.tcp 7 5) = some o := by
    rw [storeAfter_eq]
    decide +kernel
  have hget : o.dialog.get .connect = some ((Burst.ofEvent first 80).merge again) := rfl
  obtain ⟨hdialog, later, hevents, hin, hnext⟩ := merged_in_window w calls hfind rfl hget
  have hopen : w.openShares (.tcp 7 5) calls = [(.connect, first), (.connect, again)] := by
    decide +kernel
  rw [hopen] at hevents
  obtain rfl : [again] = later := (List.cons.inj hevents).2
  exact ⟨hfind, rfl, hget, hdialog, hin again (List.mem_singleton_self again),
    hnext late rfl rfl (by decide) (by decide)⟩

/-- On a connected descriptor an event from another source port, hence of another connection, is
taken in if it comes late from the time before the request began. -/
theorem stray_joined :
    let w : NetworkWatcher := .ofSettings {} .none
    let first : Event := .sample "write" 2000000000
    let stray : Event := { first with
      timestamp := 1000000000
      context := first.context.map fun c ↦
        { c with socket := c.socket.map fun s ↦ { s with srcPort := 50000 } } }
    let calls : List NetworkCall := [.consume first, .consume stray]
    Share.eventsOf .request (w.openShares (.tcp 7 5) calls) = [first, stray] ∧
      stray.srcPort ≠ first.srcPort ∧ ¬ first.InWindow w.settings.requestTimeoutSecs stray ∧
      w.handed calls = [] :=
  ⟨by decide +kernel, by decide, by decide, by decide +kernel⟩

end NetworkWatcher

end SocketWatch
