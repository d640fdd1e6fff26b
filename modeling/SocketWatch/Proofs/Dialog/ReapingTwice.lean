import SocketWatch.Proofs.Dialog.Reaping
/-!
# Reaping again

A dialog that is idle stays idle, so it does not matter whether it is finished by an early reaping
or by a late one. That this is all there is to it, and that two reapings come to what the later one
comes to by itself (`reaping_composes`), rests on each reaping being exact: what is idle is handed
over once and is gone, and nothing else has changed. It would not be so without the invariant of the
store. A dialog is removed under the key that its own events have, if it is found there, and counted
off only then; a dialog that stood elsewhere would stay behind and be found idle again for good.

The entries are all that has to be compared. The counters are kept beside them, but in a sound store
they follow from the entries (`Sound.eq_of_entries`). For the same reason no order in which the idle
dialogs are met can be told afterwards (`Sound.releaseAll_of_perm`).

How long is long enough are the seconds that are set, or the longest time that 64 bits of
nanoseconds can tell, where more is set. So there is a timeout that ends before it is due
(`reaped_before_due`).
-/

namespace SocketWatch

namespace DialogStore

variable {settings : NetworkSettings} {now later : Nat} {s s' : DialogStore}

/-! ### Stores that are the same -/

theorem eq_of_counter (hentries : s.entries = s'.entries)
    (hcounter : ∀ udp, s.counter udp = s'.counter udp) : s = s' := by
  obtain ⟨entries, tcpCount, udpCount⟩ := s
  obtain ⟨entries', tcpCount', udpCount'⟩ := s'
  obtain rfl : entries = entries' := hentries
  obtain rfl : tcpCount = tcpCount' := hcounter false
  obtain rfl : udpCount = udpCount' := hcounter true
  rfl

/-- Sound stores with the same entries are the same. -/
theorem Sound.eq_of_entries (hs : s.Sound) (hs' : s'.Sound) (h : s.entries = s'.entries) :
    s = s' := by
  refine eq_of_counter h fun udp ↦ ?_
  rw [hs.counter, hs'.counter, h]

/-! ### One reaping -/

/-- What is counted is what is handed over. -/
theorem length_handed_reap (hs : s.Sound) :
    (s.reap settings now).2.1 = (s.reap settings now).2.2.length := by
  rw [handed_reap_eq hs, List.length_map]
  rfl

theorem isIdle_eq_decide (o : OpenDialog) :
    isIdle settings now o =
      decide (o.dialog.lastActive + Time.ofSeconds settings.fdReuseTimeoutSecs ≤ now) := by
  rw [Bool.eq_iff_iff, isIdle_iff, decide_eq_true_iff]

/-- **The idle dialogs may be met in any order.** The store that is left is the same, and the same
dialogs are handed over. -/
theorem Sound.releaseAll_of_perm (hs : s.Sound) {order : List (DialogKey × OpenDialog)}
    (horder : order.Perm (s.idle settings now)) :
    (s.releaseAll order).1 = (s.reap settings now).1 ∧
      (s.releaseAll order).2.Perm (s.reap settings now).2.2 := by
  have hsound : ∀ x ∈ order, x.2.Sound x.1 := fun x hx ↦
    hs.of_mem (List.mem_filter.1 (horder.mem_iff.1 hx)).1
  have hkeys := horder.map Prod.fst
  rw [releaseAll_eq hsound, reap_eq settings now hs]
  refine ⟨eq_of_counter (Table.eq_of_entries ?_) fun udp ↦ ?_, horder.map _⟩
  · rw [entries_foldl_remove, entries_foldl_remove]
    exact List.filter_congr fun x _ ↦ decide_eq_decide.2 (not_congr hkeys.mem_iff)
  · rw [counter_foldl_remove, counter_foldl_remove, hkeys.countP_eq]

/-! ### Two reapings -/

/-- What is idle stays idle. -/
theorem isIdle_mono (hlater : now ≤ later) {o : OpenDialog} (h : isIdle settings now o = true) :
    isIdle settings later o = true :=
  isIdle_iff.2 ((isIdle_iff.1 h).trans hlater)

/-- What is idle after a reaping was not idle then. -/
theorem idle_reap (hs : s.Sound) :
    (s.reap settings now).1.idle settings later =
      (s.idle settings later).filter fun x ↦ !isIdle settings now x.2 := by
  rw [idle, entries_reap settings now hs, idle, List.filter_comm]

/-- **What is idle later is what was idle before and what is found idle after that is gone.** -/
theorem idle_append_perm (hs : s.Sound) (hlater : now ≤ later) :
    (s.idle settings now ++ (s.reap settings now).1.idle settings later).Perm
      (s.idle settings later) := by
  have hearly : s.idle settings now =
      (s.idle settings later).filter fun x ↦ isIdle settings now x.2 := by
    rw [idle, idle, List.filter_filter]
    refine List.filter_congr fun x _ ↦ ?_
    rw [Bool.eq_iff_iff, Bool.and_eq_true]
    exact ⟨fun h ↦ ⟨h, isIdle_mono hlater h⟩, And.left⟩
  rw [idle_reap hs, hearly]
  exact List.filter_append_perm _ _

/-- Two reapings hand over together what the later one would. -/
theorem handed_append_perm (hs : s.Sound) (hlater : now ≤ later) :
    ((s.reap settings now).2.2 ++ ((s.reap settings now).1.reap settings later).2.2).Perm
      (s.reap settings later).2.2 := by
  rw [handed_reap_eq hs, handed_reap_eq hs.reap, handed_reap_eq hs, ← List.map_append]
  exact (idle_append_perm hs hlater).map _

/-- Two reapings count together what the later one would. -/
theorem counted_add (hs : s.Sound) (hlater : now ≤ later) :
    (s.reap settings now).2.1 + ((s.reap settings now).1.reap settings later).2.1 =
      (s.reap settings later).2.1 := by
  rw [length_handed_reap hs, length_handed_reap hs.reap, length_handed_reap hs,
    ← (handed_append_perm hs hlater).length_eq, List.length_append]

/-- **Reaping twice is reaping once, later.** -/
theorem Sound.reap_reap (hs : s.Sound) (hlater : now ≤ later) :
    ((s.reap settings now).1.reap settings later).1 = (s.reap settings later).1 := by
  refine hs.reap.reap.eq_of_entries hs.reap (Table.eq_of_entries ?_)
  rw [entries_reap settings later hs.reap, entries_reap settings now hs,
    entries_reap settings later hs, List.filter_filter]
  refine List.filter_congr fun x _ ↦ ?_
  -- who is not idle later was not idle before
  cases hearly : isIdle settings now x.2 with
  | false => exact Bool.and_true _
  | true =>
    rw [isIdle_mono hlater hearly]
    rfl

/-- After a reaping nothing is idle. -/
theorem idle_reap_self (hs : s.Sound) : (s.reap settings now).1.idle settings now = [] := by
  rw [idle_reap hs, List.filter_eq_nil_iff]
  intro x hx
  rw [(List.mem_filter.1 hx).2]
  exact Bool.false_ne_true

theorem reap_of_idle_nil (h : s.idle settings now = []) : s.reap settings now = (s, 0, []) := by
  rw [reap, h]
  rfl

end DialogStore

namespace NetworkWatcher

/-- **Reaping is exact, and it composes**, in every run of a fresh watcher. A dialog is old when the
time that is set, or as much as 64 bits of nanoseconds can tell, has passed since it was last
active. Reaping dispatches each old dialog once, removes what stands for it, leaves everything else
as it is and answers how many there were; the order in which the old dialogs are met leaves no
trace in the store. Reaping again later makes up for the difference: the store is as if reaping had
been done only then, with its counters, and the same dialogs were finished. Reaping again at once
does nothing. -/
theorem reaping_composes (w : NetworkWatcher) (calls : List NetworkCall) (now : Nat) :
    let state := (w.run calls).1
    let entries := state.store.entries.entries
    let isOld (time : Nat) (x : DialogKey × OpenDialog) : Bool :=
      x.2.dialog.lastActive + Time.ofSeconds w.settings.fdReuseTimeoutSecs ≤ time
    let handed := (w.storeStep state.store (.reap now)).2
    let reaped := w.reap state now
    (handed = (entries.filter (isOld now)).map (·.2.dialog) ∧
        reaped.1.store.entries.entries = entries.filter (fun x ↦ !isOld now x) ∧
        reaped.2.1 = handed.length ∧
        (reaped.1.learned, reaped.2.2) =
          Stepwise.run w.dispatcher.dispatch state.learned (handed.map w.resolveNat)) ∧
      (∀ order, order.Perm (entries.filter (isOld now)) →
        (state.store.releaseAll order).1 = reaped.1.store ∧
          (state.store.releaseAll order).2.Perm handed) ∧
      (∀ later, now ≤ later →
        let again := w.reap reaped.1 later
        let once := w.reap state later
        again.1.store = once.1.store ∧ reaped.2.1 + again.2.1 = once.2.1 ∧
          (handed ++ (w.storeStep reaped.1.store (.reap later)).2).Perm
            (w.storeStep state.store (.reap later)).2) ∧
      w.reap reaped.1 now = (reaped.1, 0, []) := by
  intro state entries isOld handed reaped
  have hs : state.store.Sound := w.sound_storeAfter calls
  have hold : (fun x : DialogKey × OpenDialog ↦ DialogStore.isIdle w.settings now x.2) =
      isOld now := funext fun x ↦ DialogStore.isIdle_eq_decide x.2
  refine ⟨⟨?_, ?_, DialogStore.length_handed_reap hs, w.dispatchAll_eq state.learned handed⟩,
    fun order horder ↦ ?_, fun later hlater ↦ ?_, ?_⟩
  · rw [← hold]
    exact DialogStore.handed_reap_eq hs
  · rw [← hold]
    exact DialogStore.entries_reap w.settings now hs
  · rw [← hold] at horder
    exact hs.releaseAll_of_perm horder
  · exact ⟨hs.reap_reap hlater, DialogStore.counted_add hs hlater,
      DialogStore.handed_append_perm hs hlater⟩
  · have hagain : reaped.1.store.reap w.settings now = (reaped.1.store, 0, []) :=
      DialogStore.reap_of_idle_nil (DialogStore.idle_reap_self hs)
    rw [reap, hagain]
    rfl

/-- Two requests on two sockets, ten seconds apart. The first reaping finishes the earlier one, with
one record, and keeps the later one, which the second reaping finishes. A late reaping that meets
both in the other order leaves the same store. -/
theorem reaping_composes_two :
    let w : NetworkWatcher := .ofSettings {} .none
    let other : Event := { Event.sample "write" 11000000000 with
      context := some ⟨some { pid := 7, tid := 7 },
        some { num := 6, transport := .tcp, srcIp := some .unspecified, srcPort := 40001,
               dstPort := 80 }⟩ }
    let calls : List NetworkCall := [.consume (.sample "write" 1000000000), .consume other]
    let old := (w.run calls).1.store.entries.entries.filter fun x ↦
      x.2.dialog.lastActive + Time.ofSeconds w.settings.fdReuseTimeoutSecs ≤ 60000000000
    ((w.storeAfter calls).reap w.settings 20000000000).2.1 = 1 ∧
      ((w.storeAfter calls).reap w.settings 60000000000).2.1 = 2 ∧
      20000000000 ≤ 60000000000 ∧
      (w.reap (w.reap (w.run calls).1 20000000000).1 60000000000).1.store =
        (w.reap (w.run calls).1 60000000000).1.store ∧
      (w.reap (w.run calls).1 20000000000).2.2.length = 1 ∧
      (Stepwise.run w.dispatcher.dispatch (w.run calls).1.learned
        ((w.storeStep (w.run calls).1.store (.reap 20000000000)).2.map w.resolveNat)).2.length = 1 ∧
      old.reverse.Perm old ∧
      ((w.run calls).1.store.releaseAll old.reverse).1 =
        (w.reap (w.run calls).1 60000000000).1.store := by
  intro w other calls old
  have hlater : 20000000000 ≤ 60000000000 := by decide
  have hperm : old.reverse.Perm old := List.reverse_perm old
  have hrecord : (w.reap (w.run calls).1 20000000000).2.2.length = 1 := by decide +kernel
  obtain ⟨⟨-, -, -, hdispatched⟩, -, hcomposes, -⟩ := reaping_composes w calls 20000000000
  obtain ⟨-, horder, -⟩ := reaping_composes w calls 60000000000
  refine ⟨?_, ?_, hlater, (hcomposes _ hlater).1, hrecord, ?_, hperm, (horder _ hperm).1⟩
  · rw [storeAfter_eq]
    decide +kernel
  · rw [storeAfter_eq]
    decide +kernel
  · rw [← hdispatched]
    dsimp only
    exact hrecord

/-- A dialog was last active at time zero, and 64 bits of nanoseconds are over long before the time
that is set. It is finished all the same. -/
theorem reaped_before_due :
    let w : NetworkWatcher := .ofSettings { fdReuseTimeout := some 20000000000 } .none
    let calls : List NetworkCall := [.consume (.sample "write" 0)]
    let store := w.storeAfter calls
    let reaped := store.reap w.settings Watcher.endOfTime
    store.size = 1 ∧
      (∀ x ∈ store.entries.entries, ¬ x.2.dialog.lastActive +
        w.settings.fdReuseTimeoutSecs * 1000000000 ≤ Watcher.endOfTime) ∧
      reaped.2.1 = 1 ∧ reaped.1.size = 0 := by
  intro w calls store reaped
  have hstore : store = (Stepwise.run w.storeStep {} calls).1 := w.storeAfter_eq calls
  simp only [reaped, hstore]
  decide +kernel

end NetworkWatcher

end SocketWatch
