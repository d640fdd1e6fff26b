import SocketWatch.Proofs.Dialog.History
import SocketWatch.Proofs.Dialog.Invariant
import SocketWatch.Watcher
/-!
# What reaping hands over

The reaper asks of a dialog when it was last active, and that is asked of its latest phase. What the
answer means in terms of events is `Share.InTurn`: phases come in turn, so the latest phase is the
one that the last event went into, and the dialog was last active when that event ended
(`exists_last_of_find?`). It is the last event to arrive that counts, then, and not the latest
time: where events arrive out of order, a dialog may be reaped although one of its events is recent
(`reaped_recent`).

The flush at the end of a stream is a reaping at the end of time. It goes through the same test, so
it leaves behind what was last active less than the timeout before the end of time
(`flush_incomplete`), and nothing else (`flush_complete_iff`).
-/

namespace SocketWatch

/-! ### The last event -/

namespace Dialog

variable {settings : NetworkSettings} {d : Dialog} {p : Phase} {e : Event}

/-- **A dialog was last active when the event ended that it took in last.** The event is in the
latest phase, because one of an earlier phase would have ended the dialog. -/
theorem lastActive_merge (hasked : d.has .response = true → d.has .request = true)
    (hin : Slot.isSuperseded settings d p e = false) (limit : Nat) :
    (d.merge p e limit).lastActive = e.timestamp.toNat := by
  obtain ⟨c, q, r, n⟩ := d
  cases p with
  | response => cases r <;> rfl
  | request =>
    cases r with
    | none => cases q <;> rfl
    | some b => cases hin
  | connect =>
    cases q with
    | some b => cases hin
    | none =>
      cases r with
      | none => cases c <;> rfl
      | some b => cases hasked rfl

theorem lastActive_ofEvent (p : Phase) (e : Event) (limit : Nat) :
    (Dialog.ofEvent p e limit).lastActive = e.timestamp.toNat := by
  cases p <;> rfl

end Dialog

namespace Share

variable {settings : NetworkSettings} {limit : Nat}

/-- The phases of shares come in turn: nothing is answered that was not asked, and the last event
went into the latest phase. -/
structure InTurn (limit : Nat) (shares : List Share) : Prop where
  /-- A response comes after a request. -/
  asked : (Dialog.ofShares limit shares).has .response = true →
    (Dialog.ofShares limit shares).has .request = true
  /-- The dialog was last active when the last event ended. -/
  active : ∀ last, shares.getLast? = some last →
    (Dialog.ofShares limit shares).lastActive = last.2.timestamp.toNat

theorem inTurn_nil : InTurn limit [] where
  asked h := by cases h
  active last h := by cases h

/-- One event by itself. -/
theorem inTurn_singleton {p : Phase} (hp : p ≠ .response) (e : Event) :
    InTurn limit [(p, e)] := by
  have hone : Dialog.ofShares limit [(p, e)] = .ofEvent p e limit := Dialog.merge_empty p e limit
  refine ⟨fun h ↦ ?_, fun last hlast ↦ ?_⟩
  · rw [hone, Dialog.has_ofEvent] at h
    exact absurd (of_decide_eq_true h) hp
  · obtain rfl : (p, e) = last := Option.some.inj hlast
    rw [hone, Dialog.lastActive_ofEvent]

/-- An event that does not end the dialog. -/
theorem InTurn.concat {shares : List Share} {p : Phase} {e : Event}
    (h : InTurn settings.payloadLimit shares)
    (hin : Slot.isSuperseded settings (.ofShares settings.payloadLimit shares) p e = false)
    (hreq : p = .response → (Dialog.ofShares settings.payloadLimit shares).has .request = true) :
    InTurn settings.payloadLimit (shares ++ [(p, e)]) := by
  refine ⟨fun hresp ↦ ?_, fun last hlast ↦ ?_⟩
  · rw [Dialog.ofShares_concat, Dialog.has_merge, Bool.or_eq_true] at hresp ⊢
    rcases hresp with hresp | hresp
    · exact .inr (hreq (of_decide_eq_true hresp))
    · exact .inr (h.asked hresp)
  · rw [List.getLast?_concat] at hlast
    obtain rfl := Option.some.inj hlast
    rw [Dialog.ofShares_concat, Dialog.lastActive_merge h.asked hin]

theorem InTurn.of_gathering {shares after : List Share} {finished : List (List Share)}
    (hgathering : Slot.Gathering settings shares after finished)
    (h : InTurn settings.payloadLimit shares) : InTurn settings.payloadLimit after := by
  cases hgathering with
  | kept => exact h
  | begun hp e => exact inTurn_singleton hp e
  | joined _ hin hreq => exact h.concat hin hreq
  | superseded _ hp e => exact inTurn_singleton hp e
  | reaped => exact inTurn_nil

end Share

/-! ### Idle dialogs -/

theorem NetworkSettings.fdReuseTimeoutSecs_pos (s : NetworkSettings) :
    0 < s.fdReuseTimeoutSecs := by
  unfold fdReuseTimeoutSecs positiveOr
  split <;> omega

namespace DialogStore

variable {settings : NetworkSettings} {now : Nat}

/-- What is idle was active at least the timeout ago. -/
theorem isIdle_iff {o : OpenDialog} :
    isIdle settings now o = true ↔
      o.dialog.lastActive + Time.ofSeconds settings.fdReuseTimeoutSecs ≤ now := by
  have hpos : 0 < Time.ofSeconds settings.fdReuseTimeoutSecs := by
    have hsecs := settings.fdReuseTimeoutSecs_pos
    exact Time.ofSeconds_pos hsecs
  unfold isIdle
  rw [decide_eq_true_iff]
  omega

theorem Sound.reap {s : DialogStore} (hs : s.Sound) : (s.reap settings now).1.Sound := by
  have hstep : (s.step settings true (.reap now)).1.Sound := hs.step (.reap now)
  exact hstep

/-- What is idle is handed over, each dialog once. -/
theorem handed_reap_eq {s : DialogStore} (hs : s.Sound) :
    (s.reap settings now).2.2 = (s.idle settings now).map (·.2.dialog) := by
  rw [reap_eq settings now hs]

/-- Reaping hands over the dialogs that are idle. -/
theorem mem_reap {s : DialogStore} (hs : s.Sound) {d : Dialog} :
    d ∈ (s.reap settings now).2.2 ↔
      ∃ k o, s.entries.find? k = some o ∧ isIdle settings now o = true ∧ o.dialog = d := by
  rw [handed_reap_eq hs]
  simp only [idle, List.mem_map, List.mem_filter, Prod.exists, ← Table.find?_eq_some_iff, and_assoc]

/-- **A reaping leaves nothing behind if, and only if, all that is open is idle.** -/
theorem reap_complete_iff {s : DialogStore} (hs : s.Sound) :
    let after := s.reap settings now
    (after.1.size = 0 ∧ after.1.tcpCount = 0 ∧ after.1.udpCount = 0 ∧
        after.2.2 = s.entries.values.map (·.dialog)) ↔
      ∀ e ∈ s.entries.entries, isIdle settings now e.2 = true := by
  intro after
  have hentries : after.1.entries.entries =
      s.entries.entries.filter fun e ↦ !isIdle settings now e.2 := entries_reap settings now hs
  have hempty : after.1.entries.entries = [] ↔
      ∀ e ∈ s.entries.entries, isIdle settings now e.2 = true := by
    rw [hentries, List.filter_eq_nil_iff]
    simp only [Bool.not_eq_true', Bool.not_eq_false]
  constructor
  · rintro ⟨hsize, -⟩
    exact hempty.1 (List.length_eq_zero_iff.1 hsize)
  · intro hidle
    have hnil := hempty.2 hidle
    -- the counters count the keys of an empty store
    have hafter : after.1.Sound := hs.reap
    have hcount : ∀ p, after.1.entries.countKeys p = 0 := fun p ↦ by
      rw [Table.countKeys, hnil]
      rfl
    refine ⟨List.length_eq_zero_iff.2 hnil, ?_, ?_, ?_⟩
    · rw [hafter.tcpCount, hcount]
      rfl
    · rw [hafter.udpCount, hcount]
      rfl
    · have hall : s.idle settings now = s.entries.entries := List.filter_eq_self.2 hidle
      have hhanded : after.2.2 = (s.idle settings now).map (·.2.dialog) := handed_reap_eq hs
      rw [hhanded, hall, Table.values, List.map_map]
      rfl

end DialogStore

namespace NetworkWatcher

variable (w : NetworkWatcher) (k : DialogKey) (calls : List NetworkCall)

/-- The open shares of a key come in turn. -/
theorem inTurn_openShares : Share.InTurn w.settings.payloadLimit (w.openShares k calls) :=
  openShares_invariant Share.inTurn_nil (fun _ _ _ h hs ↦ hs.of_gathering h) k calls

variable {w k calls}

/-- An open dialog has a last event, and was last active when that ended. -/
theorem exists_last_of_find? {o : OpenDialog}
    (ho : (w.storeAfter calls).entries.find? k = some o) :
    ∃ last, (w.openShares k calls).getLast? = some last ∧
      o.dialog = .ofShares w.settings.payloadLimit (w.openShares k calls) ∧
      o.dialog.lastActive = last.2.timestamp.toNat := by
  have hstored := (w.account k calls).stored
  rw [ho] at hstored
  obtain ⟨hne, rfl⟩ := hstored.eq_dialog
  have hlast := List.getLast?_eq_some_getLast hne
  exact ⟨_, hlast, rfl, (w.inTurn_openShares k calls).active _ hlast⟩

/-- Where there is a last event, a dialog is open. -/
theorem find?_of_getLast? {last : Share} (h : (w.openShares k calls).getLast? = some last) :
    (w.storeAfter calls).entries.find? k =
      some { dialog := .ofShares w.settings.payloadLimit (w.openShares k calls),
             limit := w.settings.payloadLimit } := by
  have hne : w.openShares k calls ≠ [] := fun hnil ↦ by
    rw [hnil] at h
    cases h
  exact (w.account k calls).stored.trans (if_neg hne)

/-- **A dialog is reaped when the last event it took in is old enough**, whatever phase that went
into, and then so is every event of the dialog that is not more recent than that one. How old is
old enough are the seconds that are set, or as long as 64 bits allow. -/
theorem reaped_iff_last_old (w : NetworkWatcher) (calls : List NetworkCall) (now : Nat)
    (d : Dialog) :
    d ∈ (w.storeStep (w.storeAfter calls) (.reap now)).2 ↔
      ∃ k last, (w.openShares k calls).getLast? = some last ∧
        d = .ofShares w.settings.payloadLimit (w.openShares k calls) ∧
        ∀ x ∈ w.openShares k calls, x.2.timestamp ≤ last.2.timestamp →
          x.2.timestamp.toNat + Time.ofSeconds w.settings.fdReuseTimeoutSecs ≤ now := by
  have hmem : d ∈ (w.storeStep (w.storeAfter calls) (.reap now)).2 ↔ _ :=
    DialogStore.mem_reap (w.sound_storeAfter calls)
  rw [hmem]
  constructor
  · rintro ⟨k, o, ho, hidle, rfl⟩
    obtain ⟨last, hlast, hdialog, hactive⟩ := exists_last_of_find? ho
    rw [DialogStore.isIdle_iff, hactive] at hidle
    refine ⟨k, last, hlast, hdialog, fun x _ hx ↦ ?_⟩
    have hle := UInt64.le_iff_toNat_le.1 hx
    omega
  · rintro ⟨k, last, hlast, rfl, hold⟩
    have ho := find?_of_getLast? hlast
    refine ⟨k, _, ho, ?_, rfl⟩
    obtain ⟨last', hlast', -, hactive⟩ := exists_last_of_find? ho
    obtain rfl := Option.some.inj (hlast.symm.trans hlast')
    rw [DialogStore.isIdle_iff, hactive]
    exact hold last (List.mem_of_getLast? hlast) (UInt64.le_refl _)

/-- A request is answered by a response with an earlier time, and reaped before it ended. And a
timeout longer than 64 bits can tell is over sooner than it was set to be. -/
theorem reaped_recent :
    let w : NetworkWatcher := .ofSettings {} .none
    let calls : List NetworkCall := [.consume (.sample "write" 100000000000),
      .consume (.sample "read" 1000000000)]
    let now := 20000000000
    let patient : NetworkWatcher := .ofSettings { fdReuseTimeout := some 20000000000 } .none
    let early : List NetworkCall := [.consume (.sample "write" 0)]
    ((w.storeStep (w.storeAfter calls) (.reap now)).2 =
          [.ofShares 80 (w.openShares (.tcp 7 5) calls)] ∧
        (.request, .sample "write" 100000000000) ∈ w.openShares (.tcp 7 5) calls ∧
        ¬ (Event.sample "write" 100000000000).timestamp.toNat +
            w.settings.fdReuseTimeoutSecs * 1000000000 ≤ now) ∧
      (patient.storeStep (patient.storeAfter early) (.reap Watcher.endOfTime)).2 =
          [.ofShares 80 (patient.openShares (.tcp 7 5) early)] ∧
        (.request, .sample "write" 0) ∈ patient.openShares (.tcp 7 5) early ∧
        ¬ (Event.sample "write" 0).timestamp.toNat +
            patient.settings.fdReuseTimeoutSecs * 1000000000 ≤ Watcher.endOfTime := by
  intro w calls now patient early
  refine ⟨⟨?_, by decide +kernel, by decide⟩, ?_, by decide +kernel, by decide⟩
  · rw [storeAfter_eq]
    decide +kernel
  · rw [storeAfter_eq]
    decide +kernel

/-! ### The flush at the end -/

theorem forall_isIdle_iff {now : Nat} :
    (∀ x ∈ (w.storeAfter calls).entries.entries, DialogStore.isIdle w.settings now x.2 = true) ↔
      ∀ k last, (w.openShares k calls).getLast? = some last →
        last.2.timestamp.toNat + Time.ofSeconds w.settings.fdReuseTimeoutSecs ≤ now := by
  constructor
  · intro hidle k last hlast
    have ho := find?_of_getLast? hlast
    obtain ⟨last', hlast', -, hactive⟩ := exists_last_of_find? ho
    obtain rfl := Option.some.inj (hlast.symm.trans hlast')
    rw [← hactive, ← DialogStore.isIdle_iff]
    exact hidle _ ((w.storeAfter calls).entries.find?_eq_some_iff.1 ho)
  · intro hold x hx
    obtain ⟨last, hlast, -, hactive⟩ :=
      exists_last_of_find? ((w.storeAfter calls).entries.find?_eq_some_iff.2 hx)
    rw [DialogStore.isIdle_iff, hactive]
    exact hold _ _ hlast

/-- One more call. -/
theorem run_concat (c : NetworkCall) :
    let next := w.storeStep (w.storeAfter calls) c
    let outcome :=
      Stepwise.run w.dispatcher.dispatch (w.run calls).1.learned (next.2.map w.resolveNat)
    w.run (calls ++ [c]) = (⟨next.1, outcome.1⟩, (w.run calls).2 ++ outcome.2) := by
  intro next outcome
  rw [run, Stepwise.run_concat, step_eq]
  rfl

/-- **The flush at the end hands over all that is open if, and only if, the last event of every open
dialog ended at least the timeout before the end of time.** What it hands over is dispatched, each
dialog once and in order. -/
theorem flush_complete_iff (w : NetworkWatcher) (calls : List NetworkCall) :
    let store := w.storeAfter calls
    let flushed := w.storeStep store (.reap Watcher.endOfTime)
    let outcome :=
      Stepwise.run w.dispatcher.dispatch (w.run calls).1.learned (flushed.2.map w.resolveNat)
    w.run (calls ++ [.reap Watcher.endOfTime]) =
        (⟨flushed.1, outcome.1⟩, (w.run calls).2 ++ outcome.2) ∧
      ((flushed.1.size = 0 ∧ flushed.1.tcpCount = 0 ∧ flushed.1.udpCount = 0 ∧
          flushed.2 = store.entries.values.map (·.dialog)) ↔
        ∀ k last, (w.openShares k calls).getLast? = some last →
          last.2.timestamp.toNat + Time.ofSeconds w.settings.fdReuseTimeoutSecs ≤
            Watcher.endOfTime) := by
  intro store flushed outcome
  refine ⟨w.run_concat _, ?_⟩
  rw [← forall_isIdle_iff]
  exact DialogStore.reap_complete_iff (w.sound_storeAfter calls)

/-- A timeout of more seconds than there are until the end of time keeps everything that happened
after time zero. So does the default one what happened in the last seconds. -/
theorem flush_incomplete :
    let patient : NetworkWatcher := .ofSettings { fdReuseTimeout := some 20000000000 } .none
    let early : List NetworkCall := [.consume (.sample "write" 1000)]
    let default : NetworkWatcher := .ofSettings {} .none
    let late : List NetworkCall := [.consume (.sample "write" 18446744073709551615)]
    let left (w : NetworkWatcher) (calls : List NetworkCall) : DialogStore × List Dialog :=
      w.storeStep (w.storeAfter calls) (.reap Watcher.endOfTime)
    ((left patient early).1.size = 1 ∧ (left patient early).2 = []) ∧
      (left default late).1.size = 1 ∧ (left default late).2 = [] := by
  intro patient early default late left
  simp only [left, storeAfter_eq]
  decide +kernel

end NetworkWatcher

end SocketWatch
