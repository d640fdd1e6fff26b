import SocketWatch.Proofs.Dialog.Slot
import SocketWatch.Proofs.Table
/-!
# The store as a family of slots

Between calls a store is sound: every open dialog stands under its own key, has a request if it
has a response, was not handed over yet, and is counted once under the kind of its key. Soundness
is what makes the steps of the store simple. An event becomes one write under its key
(`consume_eq`). Reaping removes exactly the idle entries (`entries_reap`), although each of them is
removed under the key that is computed from its events, and only if it is still found there.

So a sound store steps as its slots do, one by one (`find?_step`, `handed_step`), and by
`Stepwise.run_project` so do its runs. That is what statements about single keys rest on.
-/

namespace SocketWatch

/-- An open dialog of a sound store is handed over. -/
theorem OpenDialog.Sound.handOver {k : DialogKey} {o : OpenDialog} (ho : o.Sound k) :
    o.handOver = [o.dialog] := by
  simp [OpenDialog.handOver, ho.unpublished, ho.isEmpty]

namespace DialogStore

/-! ### The counters -/

/-- The counter for a kind of key. -/
def counter (s : DialogStore) (udp : Bool) : Int := if udp then s.udpCount else s.tcpCount

theorem counter_count (s : DialogStore) (k : DialogKey) (change : Int) (udp : Bool) :
    (s.count k change).counter udp = s.counter udp + if k.isUdp = udp then change else 0 := by
  cases hk : k.isUdp <;> cases udp <;> simp [count, counter, hk]

@[simp] theorem entries_count (s : DialogStore) (k : DialogKey) (change : Int) :
    (s.count k change).entries = s.entries := by
  unfold count
  split <;> rfl

/-- What holds of a store between calls. -/
structure Sound (s : DialogStore) : Prop where
  /-- Every slot is sound. -/
  slot : ∀ k, Slot.Sound k (s.entries.find? k)
  /-- The counters count the keys. -/
  counter : ∀ udp, s.counter udp = s.entries.countKeys (·.isUdp = udp)

theorem sound_empty : ({} : DialogStore).Sound where
  slot _ := Slot.sound_none
  counter udp := by cases udp <;> rfl

theorem Sound.of_mem {s : DialogStore} (hs : s.Sound) {e : DialogKey × OpenDialog}
    (he : e ∈ s.entries.entries) : e.2.Sound e.1 :=
  hs.slot e.1 e.2 (s.entries.find?_eq_some_iff.2 he)

/-! ### Events as writes -/

/-- Write what an event leaves under its key. An event leaves nothing only where nothing was. -/
def write (s : DialogStore) (k : DialogKey) : Slot → DialogStore
  | none => s
  | some o => if (s.entries.find? k).isSome then s.put k o else s.insertNew k o

variable {s : DialogStore} {k : DialogKey}

theorem write_of_find?_some {o : OpenDialog} (h : s.entries.find? k = some o) (o' : OpenDialog) :
    s.write k (some o') = s.put k o' := by
  simp [write, h]

theorem write_of_find?_none (h : s.entries.find? k = none) (o : OpenDialog) :
    s.write k (some o) = s.insertNew k o := by
  simp [write, h]

theorem entries_write_some (s : DialogStore) (k : DialogKey) (o : OpenDialog) :
    (s.write k (some o)).entries = s.entries.insert k o := by
  cases h : s.entries.find? k with
  | none =>
    rw [write_of_find?_none h]
    exact entries_count _ _ _
  | some o' =>
    rw [write_of_find?_some h]
    rfl

theorem put_of_find? {o : OpenDialog} (h : s.entries.find? k = some o) : s.put k o = s := by
  unfold put
  rw [Table.insert_of_find? h]

/-- **An event is one write under its key.** Here soundness is used: an unpublished dialog that is
not empty is always handed over when it is superseded. -/
theorem consume_eq {settings : NetworkSettings} {admitUdp : Bool} {e : Event} {p : Phase}
    (hs : s.Sound) (hp : e.phase? admitUdp = some p) :
    s.consume settings admitUdp e =
      (s.write (.ofEvent e) (Slot.take settings (s.entries.find? (.ofEvent e)) p e).1,
        (Slot.take settings (s.entries.find? (.ofEvent e)) p e).2) := by
  unfold consume
  rw [hp]
  cases hfind : s.entries.find? (.ofEvent e) with
  | none =>
    cases p <;>
      simp [connect, request, response, hfind, Slot.take, write]
  | some o =>
    have ho : o.Sound (.ofEvent e) := hs.slot _ o hfind
    -- each kind of event tests the open dialog in its own way, and then writes once
    cases p with
    | connect =>
      simp only [connect, hfind, Slot.take, Slot.isSuperseded, reduceCtorEq, false_and, if_false,
        ho.handOver]
      split <;> simp only [write_of_find?_some hfind]
    | request =>
      simp only [request, hfind, Slot.take, Slot.isSuperseded, reduceCtorEq, false_and, if_false,
        ho.handOver, ho.isEmpty, Bool.false_eq_true]
      split <;> simp only [write_of_find?_some hfind]
    | response =>
      simp only [response, hfind, Slot.take, Slot.isSuperseded, Bool.false_eq_true, if_false,
        true_and]
      cases o.dialog.has .request with
      | true => simp [write_of_find?_some hfind]
      | false => simp [write_of_find?_some hfind, put_of_find? hfind]

theorem consume_of_phase?_none {settings : NetworkSettings} {admitUdp : Bool} {e : Event}
    (hp : e.phase? admitUdp = none) : s.consume settings admitUdp e = (s, []) := by
  unfold consume
  rw [hp]

theorem find?_write {slot : Slot} (h : slot = none → s.entries.find? k = none) (k' : DialogKey) :
    (s.write k slot).entries.find? k' = if k = k' then slot else s.entries.find? k' := by
  cases slot with
  | none =>
    split
    · rename_i hk
      rw [← hk]
      exact h rfl
    · rfl
  | some o =>
    rw [entries_write_some]
    split
    · rename_i hk
      rw [hk]
      exact Table.find?_insert_self _ _ _
    · rename_i hk
      exact Table.find?_insert_of_ne _ hk _

/-- A write under a key that was absent is counted. -/
theorem counter_write (hs : s.Sound) (k : DialogKey) (slot : Slot) (udp : Bool) :
    (s.write k slot).counter udp = (s.write k slot).entries.countKeys (·.isUdp = udp) := by
  cases slot with
  | none => exact hs.counter udp
  | some o =>
    rw [entries_write_some, Table.countKeys_insert]
    cases h : s.entries.find? k with
    | none =>
      rw [write_of_find?_none h, insertNew, counter_count]
      have hput : (s.put k o).counter udp = s.counter udp := rfl
      rw [hput, hs.counter]
      by_cases hk : k.isUdp = udp <;> simp [hk]
    | some o' =>
      rw [write_of_find?_some h]
      have hput : (s.put k o).counter udp = s.counter udp := rfl
      rw [hput, hs.counter]
      simp

/-! ### Reaping as a filter -/

/-- A store without a key that was in it. -/
def remove (s : DialogStore) (k : DialogKey) : DialogStore :=
  ({ s with entries := s.entries.erase k } : DialogStore).count k (-1)

/-- A sound dialog is found under the key of its own events, and so it leaves the store. -/
theorem release_eq {o : OpenDialog} (ho : o.Sound k) (s : DialogStore) :
    s.release k o = (s.remove k, [o.dialog]) := by
  have hput : (s.put k { o with published := true }).entries =
      s.entries.insert k { o with published := true } := rfl
  simp only [release, OpenDialog.claim, ho.unpublished, Bool.not_false, ho.key, hput,
    Table.find?_insert_self, if_true, Table.erase_insert]
  rfl

theorem releaseAll_eq {l : List (DialogKey × OpenDialog)} (hl : ∀ e ∈ l, e.2.Sound e.1)
    (s : DialogStore) :
    s.releaseAll l = ((l.map Prod.fst).foldl remove s, l.map (·.2.dialog)) := by
  induction l generalizing s with
  | nil => rfl
  | cons e rest ih =>
    have he := hl e List.mem_cons_self
    have hrest := ih fun e' he' ↦ hl e' (List.mem_cons_of_mem e he')
    simp only [releaseAll, release_eq he, hrest, List.map_cons, List.foldl_cons,
      List.singleton_append]

theorem entries_foldl_remove (s : DialogStore) (ks : List DialogKey) :
    (ks.foldl remove s).entries.entries = s.entries.entries.filter (·.1 ∉ ks) := by
  induction ks generalizing s with
  | nil => simp
  | cons k ks ih =>
    have hremove : (s.remove k).entries = s.entries.erase k := entries_count _ _ _
    rw [List.foldl_cons, ih, hremove]
    show (s.entries.entries.filter (·.1 ≠ k)).filter (·.1 ∉ ks) = _
    rw [List.filter_filter]
    refine List.filter_congr fun e _ ↦ ?_
    simp [Bool.and_comm]

theorem counter_foldl_remove (s : DialogStore) (ks : List DialogKey) (udp : Bool) :
    (ks.foldl remove s).counter udp = s.counter udp - ks.countP (·.isUdp = udp) := by
  induction ks generalizing s with
  | nil => simp
  | cons k ks ih =>
    have herase : ({ s with entries := s.entries.erase k } : DialogStore).counter udp =
      s.counter udp := rfl
    rw [List.foldl_cons, ih, remove, counter_count, herase, List.countP_cons]
    by_cases hk : k.isUdp = udp
    · simp [hk]
      omega
    · simp [hk]

/-- Keys do not repeat, so an entry that has the key of an idle entry is that entry. -/
theorem mem_idle_keys {settings : NetworkSettings} {now : Nat} {e : DialogKey × OpenDialog}
    (he : e ∈ s.entries.entries) :
    e.1 ∈ (s.idle settings now).map Prod.fst ↔ isIdle settings now e.2 = true := by
  constructor
  · intro h
    obtain ⟨e', he', hkey⟩ := List.mem_map.1 h
    obtain ⟨hmem, hidle⟩ := List.mem_filter.1 he'
    -- both entries are what a look-up of the one key finds
    have hfind := s.entries.find?_eq_some_iff.2 he
    have hfind' : s.entries.find? e.1 = some e'.2 := by
      rw [← hkey]
      exact s.entries.find?_eq_some_iff.2 hmem
    rw [hfind] at hfind'
    rw [Option.some.inj hfind']
    exact hidle
  · intro h
    exact List.mem_map.2 ⟨e, List.mem_filter.2 ⟨he, h⟩, rfl⟩

variable (settings : NetworkSettings) (now : Nat)

theorem reap_eq (hs : s.Sound) :
    s.reap settings now =
      (((s.idle settings now).map Prod.fst).foldl remove s, (s.idle settings now).length,
        (s.idle settings now).map (·.2.dialog)) := by
  have hidle : ∀ e ∈ s.idle settings now, e.2.Sound e.1 := fun e he ↦
    hs.of_mem (List.mem_filter.1 he).1
  simp only [reap, releaseAll_eq hidle]

/-- **Reaping removes the idle entries** and leaves the others as they are. -/
theorem entries_reap (hs : s.Sound) :
    (s.reap settings now).1.entries.entries =
      s.entries.entries.filter fun e ↦ !isIdle settings now e.2 := by
  rw [reap_eq settings now hs, entries_foldl_remove]
  refine List.filter_congr fun e he ↦ ?_
  rw [Bool.eq_iff_iff, decide_eq_true_iff, mem_idle_keys he]
  simp

theorem counter_reap (hs : s.Sound) (udp : Bool) :
    (s.reap settings now).1.counter udp =
      (s.reap settings now).1.entries.countKeys (·.isUdp = udp) := by
  -- the keys before are those of the idle entries, which are counted off, and those that stay
  have hsplit := List.countP_eq_countP_filter_add s.entries.entries
    (fun e ↦ decide (e.1.isUdp = udp)) fun e ↦ isIdle settings now e.2
  have hafter : (s.reap settings now).1.entries.countKeys (·.isUdp = udp) =
      (s.entries.entries.filter fun e ↦ !isIdle settings now e.2).countP
        fun e ↦ decide (e.1.isUdp = udp) := by
    unfold Table.countKeys
    rw [entries_reap settings now hs]
  have hbefore := hs.counter udp
  rw [hafter, reap_eq settings now hs, counter_foldl_remove, List.countP_map, hbefore]
  unfold Table.countKeys idle
  rw [hsplit]
  simp [Function.comp_def]

/-! ### The store seen through one key -/

theorem find?_reap (hs : s.Sound) (k : DialogKey) :
    (s.reap settings now).1.entries.find? k =
      (Slot.release (isIdle settings now) (s.entries.find? k)).1 := by
  ext o
  rw [Table.find?_eq_some_iff, entries_reap settings now hs, List.mem_filter,
    ← Table.find?_eq_some_iff, Slot.release_fst_eq_some, Bool.not_eq_true']

theorem handed_reap (hs : s.Sound) (k : DialogKey) :
    (s.reap settings now).2.2.filter (·.key? = some k) =
      (Slot.release (isIdle settings now) (s.entries.find? k)).2 := by
  have hkey : ∀ e ∈ s.entries.entries,
      decide (e.2.dialog.key? = some k) = decide (e.1 = k) := by
    intro e he
    rw [(hs.of_mem he).key]
    exact decide_eq_decide.2 Option.some_inj
  rw [reap_eq settings now hs, Slot.release_snd]
  calc ((s.idle settings now).map (·.2.dialog)).filter (·.key? = some k)
      = ((s.entries.entries.filter fun e ↦ isIdle settings now e.2).filter
          fun e ↦ decide (e.2.dialog.key? = some k)).map (·.2.dialog) := List.filter_map
    _ = ((s.entries.entries.filter fun e ↦ decide (e.2.dialog.key? = some k)).filter
          fun e ↦ isIdle settings now e.2).map (·.2.dialog) := by rw [List.filter_comm]
    _ = (((s.entries.find? k).toList.map (k, ·)).filter
          fun e ↦ isIdle settings now e.2).map (·.2.dialog) := by
        rw [List.filter_congr hkey, Table.entries_filter_key]
    _ = ((s.entries.find? k).toList.filter (isIdle settings now)).map (·.dialog) := by
        rw [List.filter_map, List.map_map]
        rfl

/-! ### Steps and runs -/

variable {settings} {admitUdp : Bool}

/-- **A call does to a slot what the slot does by itself.** -/
theorem find?_step (hs : s.Sound) (c : NetworkCall) (k : DialogKey) :
    (s.step settings admitUdp c).1.entries.find? k =
      (Slot.step settings admitUdp k (s.entries.find? k) c).1 := by
  cases c with
  | reap now => exact find?_reap settings now hs k
  | consume e =>
    show (s.consume settings admitUdp e).1.entries.find? k = _
    cases hp : e.phase? admitUdp with
    | none => rw [consume_of_phase?_none hp, Slot.step_consume_of_phase?_none hp]
    | some p =>
      rw [consume_eq hs hp, find?_write Slot.eq_none_of_take]
      split
      · rename_i he
        rw [Slot.step_consume he hp, he]
      · rename_i he
        rw [Slot.step_consume_of_ne he]

/-- **A call hands over for a key what its slot does by itself.** -/
theorem handed_step (hs : s.Sound) (c : NetworkCall) (k : DialogKey) :
    (s.step settings admitUdp c).2.filter (·.key? = some k) =
      (Slot.step settings admitUdp k (s.entries.find? k) c).2 := by
  cases c with
  | reap now => exact handed_reap settings now hs k
  | consume e =>
    show (s.consume settings admitUdp e).2.filter _ = _
    cases hp : e.phase? admitUdp with
    | none =>
      rw [consume_of_phase?_none hp, Slot.step_consume_of_phase?_none hp]
      rfl
    | some p =>
      have hkey := (Slot.take_effect settings (s.entries.find? (.ofEvent e)) p e).key (hs.slot _)
      rw [consume_eq hs hp]
      by_cases he : DialogKey.ofEvent e = k
      · rw [Slot.step_consume he hp, ← he]
        exact List.filter_eq_self.2 fun d hd ↦ decide_eq_true (hkey d hd)
      · -- whatever is handed over has the key of the event
        rw [Slot.step_consume_of_ne he]
        refine List.filter_eq_nil_iff.2 fun d hd hdk ↦ he ?_
        exact Option.some.inj ((hkey d hd).symm.trans (of_decide_eq_true hdk))

/-- What a call hands over is a dialog of some key. -/
theorem Sound.exists_key (hs : s.Sound) (c : NetworkCall) :
    ∀ d ∈ (s.step settings admitUdp c).2, ∃ k, d.key? = some k := by
  cases c with
  | reap now =>
    intro d hd
    have hmem : d ∈ (s.reap settings now).2.2 := hd
    rw [reap_eq settings now hs] at hmem
    obtain ⟨e, he, rfl⟩ := List.mem_map.1 hmem
    exact ⟨e.1, (hs.of_mem (List.mem_filter.1 he).1).key⟩
  | consume e =>
    intro d hd
    have hmem : d ∈ (s.consume settings admitUdp e).2 := hd
    cases hp : e.phase? admitUdp with
    | none =>
      rw [consume_of_phase?_none hp] at hmem
      cases hmem
    | some p =>
      rw [consume_eq hs hp] at hmem
      exact ⟨_, (Slot.take_effect settings _ p e).key (hs.slot _) d hmem⟩

/-- **Every call keeps a store sound.** -/
theorem Sound.step (hs : s.Sound) (c : NetworkCall) : (s.step settings admitUdp c).1.Sound where
  slot k := by
    rw [find?_step hs c k]
    exact Slot.sound_step (hs.slot k) c
  counter udp := by
    cases c with
    | reap now => exact counter_reap settings now hs udp
    | consume e =>
      show (s.consume settings admitUdp e).1.counter udp =
        (s.consume settings admitUdp e).1.entries.countKeys (·.isUdp = udp)
      cases hp : e.phase? admitUdp with
      | none =>
        rw [consume_of_phase?_none hp]
        exact hs.counter udp
      | some p =>
        rw [consume_eq hs hp]
        exact counter_write hs _ _ udp

end DialogStore

namespace NetworkWatcher

variable (w : NetworkWatcher)

/-- The store of a watcher is sound after every run. -/
theorem sound_storeAfter (calls : List NetworkCall) : (w.storeAfter calls).Sound := by
  rw [storeAfter_eq]
  exact Stepwise.run_invariant (fun _ c hs ↦ hs.step c) DialogStore.sound_empty calls

/-- **A run seen through one key is the run of its slot**: the same dialog is open under the key
afterwards, and the same dialogs of the key were handed over, in the same order. -/
theorem slot_run (k : DialogKey) (calls : List NetworkCall) :
    (w.storeAfter calls).entries.find? k =
        (Stepwise.run (Slot.step w.settings w.admitUdp k) none calls).1 ∧
      (w.handed calls).filter (·.key? = some k) =
        (Stepwise.run (Slot.step w.settings w.admitUdp k) none calls).2 := by
  have hsound : ∀ s c, DialogStore.Sound s → (w.storeStep s c).1.Sound := fun _ c hs ↦ hs.step c
  have hview : ∀ s c, DialogStore.Sound s →
      (w.storeStep s c).1.entries.find? k =
        (Slot.step w.settings w.admitUdp k (s.entries.find? k) c).1 :=
    fun _ c hs ↦ DialogStore.find?_step hs c k
  have hout : ∀ s c, DialogStore.Sound s →
      (w.storeStep s c).2.filter (·.key? = some k) =
        (Slot.step w.settings w.admitUdp k (s.entries.find? k) c).2 :=
    fun _ c hs ↦ DialogStore.handed_step hs c k
  rw [storeAfter_eq]
  exact Stepwise.run_project _ _ hsound hview hout DialogStore.sound_empty calls

end NetworkWatcher

end SocketWatch
