import SocketWatch.Proofs.Dialog.Store
/-!
# Nothing is lost and nothing is counted twice

Every event that the dialog watcher deals with is a **share**: it goes into a dialog in the phase
it has. The only shares that go nowhere are responses under a key with no request in the store.
What a run took in is therefore the list of the shares that were admitted, and the dialogs account
for all of it: under each key, the admitted shares in their order are cut into consecutive groups,
one for each dialog that was handed over, in the order of handing over, and a last one for the
dialog that is still open. A dialog is exactly what its group adds up to (`Dialog.ofShares`).

This says more than that sums agree. A dialog that was superseded and not handed over, an event
that went both into the old dialog and into the new one, or a dialog that was handed over both when
it was superseded and when it was reaped would each break the cut. Sums are balanced separately
(`bytes_run`), by a step lemma over the entries, because they run over all keys at once.
-/

namespace SocketWatch

/-! ### Shares -/

/-- An event with the phase in which it goes into a dialog. -/
abbrev Share := Phase × Event

/-- The share of a call: its event, if the watcher deals with it. -/
def NetworkCall.share? (admitUdp : Bool) : NetworkCall → Option Share
  | .consume e => (e.phase? admitUdp).map (·, e)
  | .reap _ => none

/-- The dialog that shares add up to. -/
def Dialog.ofShares (limit : Nat) (shares : List Share) : Dialog :=
  shares.foldl (fun d x ↦ d.merge x.1 x.2 limit) {}

theorem Dialog.ofShares_concat (limit : Nat) (shares : List Share) (p : Phase) (e : Event) :
    ofShares limit (shares ++ [(p, e)]) = (ofShares limit shares).merge p e limit :=
  List.foldl_concat _ _ _ _

/-- Whether a share of a phase finds a dialog under its key or may begin one: a response needs a
request there. -/
def Slot.admits (slot : Slot) (p : Phase) : Bool :=
  p ≠ .response || slot.any (·.dialog.has .request)

theorem Slot.admits_of_ne {p : Phase} (hp : p ≠ .response) (slot : Slot) :
    slot.admits p = true := by
  simp [admits, hp]

theorem Slot.admits_some {o : OpenDialog} {p : Phase}
    (hreq : p = .response → o.dialog.has .request = true) : admits (some o) p = true := by
  by_cases hp : p = .response
  · simp [admits, hreq hp]
  · exact admits_of_ne hp _

/-- The shares that a slot takes in at a call: at most one. -/
def Slot.absorbed (admitUdp : Bool) (k : DialogKey) (slot : Slot) (c : NetworkCall) : List Share :=
  (c.share? admitUdp).toList.filter fun x ↦ DialogKey.ofEvent x.2 = k && admits slot x.1

/-- The shares that a store takes in at a call: at most one. -/
def DialogStore.absorbed (admitUdp : Bool) (s : DialogStore) (c : NetworkCall) : List Share :=
  (c.share? admitUdp).toList.filter fun x ↦
    Slot.admits (s.entries.find? (.ofEvent x.2)) x.1

/-- The step of the store inside a watcher, with the shares it takes in for output. -/
def NetworkWatcher.absorbStep (w : NetworkWatcher) (s : DialogStore) (c : NetworkCall) :
    DialogStore × List Share :=
  ((w.storeStep s c).1, s.absorbed w.admitUdp c)

/-- The shares that a fresh watcher takes in during calls, in order. -/
def NetworkWatcher.absorbed (w : NetworkWatcher) (calls : List NetworkCall) : List Share :=
  (Stepwise.run w.absorbStep {} calls).2

theorem DialogStore.absorbed_filter_key (admitUdp : Bool) (s : DialogStore) (c : NetworkCall)
    (k : DialogKey) :
    (s.absorbed admitUdp c).filter (DialogKey.ofEvent ·.2 = k) =
      Slot.absorbed admitUdp k (s.entries.find? k) c := by
  unfold absorbed Slot.absorbed
  rw [List.filter_filter]
  refine List.filter_congr fun x _ ↦ ?_
  by_cases hx : DialogKey.ofEvent x.2 = k
  · rw [hx]
  · simp [hx]

/-- What becomes of an open dialog at a call, given the slot afterwards and what was handed over
under its key. It **stays**, as it is or with one more event, and nothing is handed over; or it
**leaves**, for a new dialog or for none, and it alone is handed over. -/
def OpenDialog.StaysOrLeaves (limit : Nat) (o : OpenDialog) (slot : Slot) (ds : List Dialog) :
    Prop :=
  ((slot = some o ∨ ∃ p e, slot = some (o.merge p e)) ∧ ds = []) ∨
    ((slot = none ∨ ∃ p e, slot = some (.ofEvent p e limit)) ∧ ds = [o.dialog])

/-! ### A slot holds what its shares add up to -/

namespace Slot

/-- The slot holds the dialog of these shares, and nothing if there are none. -/
def Holds (limit : Nat) (shares : List Share) (slot : Slot) : Prop :=
  slot = if shares = [] then none else some { dialog := .ofShares limit shares, limit }

theorem holds_nil {limit : Nat} : Holds limit [] none := (if_pos rfl).symm

theorem Holds.eq_nil {limit : Nat} {shares : List Share} (h : Holds limit shares none) :
    shares = [] := by
  by_contra hne
  exact absurd (h.trans (if_neg hne)) (by simp)

theorem Holds.eq_dialog {limit : Nat} {shares : List Share} {o : OpenDialog}
    (h : Holds limit shares (some o)) :
    shares ≠ [] ∧ o = { dialog := .ofShares limit shares, limit } := by
  by_cases hnil : shares = []
  · exact absurd (h.trans (if_pos hnil)) (by simp)
  · exact ⟨hnil, Option.some.inj (h.trans (if_neg hnil))⟩

theorem holds_concat (limit : Nat) (shares : List Share) (p : Phase) (e : Event) :
    Holds limit (shares ++ [(p, e)])
      (some { dialog := (Dialog.ofShares limit shares).merge p e limit, limit }) := by
  rw [Holds, if_neg (by simp), Dialog.ofShares_concat]

variable {settings : NetworkSettings} {admitUdp : Bool}

/-- The shares up to a moment, and those that came next, are cut into groups whose dialogs were
handed over and a rest that the slot holds. -/
def Cut (limit : Nat) (shares : List Share) (handed : List Dialog) (slot : Slot) : Prop :=
  ∃ (finished : List (List Share)) (current : List Share),
    shares = finished.flatten ++ current ∧ handed = finished.map (Dialog.ofShares limit) ∧
      [] ∉ finished ∧ Holds limit current slot

/-- A cut where nothing was handed over. -/
theorem Holds.cut {limit : Nat} {shares : List Share} {slot : Slot}
    (h : Holds limit shares slot) : Cut limit shares [] slot :=
  ⟨[], shares, rfl, rfl, List.not_mem_nil, h⟩

/-- An event that is not a response begins a dialog. -/
theorem holds_ofEvent (limit : Nat) (p : Phase) (e : Event) :
    Holds limit [(p, e)] (some (.ofEvent p e limit)) := by
  have h := holds_concat limit [] p e
  rwa [show Dialog.ofShares limit [] = {} from rfl, Dialog.merge_empty] at h

/-- **An event is taken in once.** What it does to the slot is what appending its share, or
cutting in front of it, does to the shares. -/
theorem Effect.cut {slot slot' : Slot} {p : Phase} {e : Event} {ds : List Dialog}
    (h : Effect settings p e slot slot' ds) {shares : List Share}
    (hslot : Holds settings.payloadLimit shares slot) :
    Cut settings.payloadLimit (shares ++ if admits slot p then [(p, e)] else []) ds slot' := by
  cases h with
  | dropped hp hreq =>
    have hadmits : admits slot p = false := by simp [admits, hp, hreq]
    rw [hadmits, if_neg Bool.false_ne_true, List.append_nil]
    exact hslot.cut
  | begun hp =>
    rw [admits_of_ne hp, if_pos rfl, hslot.eq_nil]
    exact (holds_ofEvent _ p e).cut
  | @joined o hin hreq =>
    obtain ⟨-, rfl⟩ := hslot.eq_dialog
    rw [admits_some hreq, if_pos rfl]
    exact (holds_concat _ shares p e).cut
  | @superseded o hp hout =>
    -- the cut is in front of the event, which begins the next group
    obtain ⟨hne, rfl⟩ := hslot.eq_dialog
    rw [admits_of_ne hp, if_pos rfl]
    refine ⟨[shares], [(p, e)], by simp, rfl, ?_, holds_ofEvent _ p e⟩
    simpa [eq_comm] using hne

/-- Cuts of consecutive stretches make a cut of the whole. -/
theorem Cut.append {limit : Nat} {shares more : List Share} {ds ds' : List Dialog} {slot slot' : Slot}
    (h : Cut limit shares ds slot)
    (hmore : ∀ current, Holds limit current slot → Cut limit (current ++ more) ds' slot') :
    Cut limit (shares ++ more) (ds ++ ds') slot' := by
  -- the group that is open after the first stretch goes on in the second
  obtain ⟨finished, current, rfl, rfl, hnil, hheld⟩ := h
  obtain ⟨finished', current', hshares, rfl, hnil', hheld'⟩ := hmore current hheld
  refine ⟨finished ++ finished', current', ?_, ?_, ?_, hheld'⟩
  · rw [List.append_assoc, hshares, List.flatten_append, List.append_assoc]
  · rw [List.map_append]
  · rw [List.mem_append, not_or]
    exact ⟨hnil, hnil'⟩

theorem absorbed_consume_of_phase?_none {k : DialogKey} {slot : Slot} {e : Event}
    (hp : e.phase? admitUdp = none) : absorbed admitUdp k slot (.consume e) = [] := by
  rw [absorbed, NetworkCall.share?, hp]
  rfl

theorem absorbed_consume {k : DialogKey} {slot : Slot} {e : Event} {p : Phase}
    (hp : e.phase? admitUdp = some p) :
    absorbed admitUdp k slot (.consume e) =
      if DialogKey.ofEvent e = k && admits slot p then [(p, e)] else [] := by
  rw [absorbed, NetworkCall.share?, hp]
  exact List.filter_cons

/-- **A call cuts the shares of a slot.** -/
theorem cut_step (k : DialogKey) {slot : Slot} {shares : List Share}
    (hslot : Holds settings.payloadLimit shares slot) (c : NetworkCall) :
    Cut settings.payloadLimit (shares ++ absorbed admitUdp k slot c)
      (step settings admitUdp k slot c).2 (step settings admitUdp k slot c).1 := by
  cases c with
  | consume e =>
    cases hp : e.phase? admitUdp with
    | none =>
      rw [absorbed_consume_of_phase?_none hp, step_consume_of_phase?_none hp, List.append_nil]
      exact hslot.cut
    | some p =>
      by_cases he : DialogKey.ofEvent e = k
      · rw [absorbed_consume hp, step_consume he hp]
        simpa [he] using (take_effect settings slot p e).cut hslot
      · rw [absorbed_consume hp, step_consume_of_ne he]
        simpa [he] using hslot.cut
  | reap now =>
    have hnone : absorbed admitUdp k slot (.reap now) = [] := rfl
    rw [hnone, List.append_nil]
    rcases release_cases (DialogStore.isIdle settings now) slot with h | ⟨o, rfl, -, h⟩
    · rw [step, h]
      exact hslot.cut
    · obtain ⟨hne, rfl⟩ := hslot.eq_dialog
      -- the cut is behind the last share, and the next group is empty so far
      rw [step, h]
      refine ⟨[shares], [], by simp, rfl, ?_, holds_nil⟩
      simpa [eq_comm] using hne

end Slot

/-! ### Runs cut their shares -/

namespace NetworkWatcher

variable (w : NetworkWatcher)

/-- **Under each key, the shares of a run are cut into its dialogs.** The induction is on the
calls; the shares that the slot holds at the beginning of a stretch are its first group. -/
theorem cut_run_from (k : DialogKey) (calls : List NetworkCall) {s : DialogStore} (hs : s.Sound)
    {shares : List Share}
    (hslot : Slot.Holds w.settings.payloadLimit shares (s.entries.find? k)) :
    Slot.Cut w.settings.payloadLimit
      (shares ++ (Stepwise.run w.absorbStep s calls).2.filter (DialogKey.ofEvent ·.2 = k))
      ((Stepwise.run w.storeStep s calls).2.filter (·.key? = some k))
      ((Stepwise.run w.storeStep s calls).1.entries.find? k) := by
  induction calls generalizing s shares with
  | nil =>
    simpa using hslot.cut
  | cons c calls ih =>
    have hsound : (w.storeStep s c).1.Sound := hs.step c
    have hshares : (w.absorbStep s c).2.filter (DialogKey.ofEvent ·.2 = k) =
        Slot.absorbed w.admitUdp k (s.entries.find? k) c := s.absorbed_filter_key w.admitUdp c k
    have hhanded : (w.storeStep s c).2.filter (·.key? = some k) = _ := DialogStore.handed_step hs c k
    have hfind : (w.storeStep s c).1.entries.find? k = _ := DialogStore.find?_step hs c k
    rw [Stepwise.run_cons, Stepwise.run_cons, List.filter_append, List.filter_append,
      ← List.append_assoc, hshares, hhanded]
    refine (Slot.cut_step k hslot c).append fun current hheld ↦ ih hsound ?_
    rw [hfind]
    exact hheld

end NetworkWatcher

/-! ### Bytes -/

/-- What the results of the shares of a phase add up to. -/
def Share.bytes (q : Phase) (shares : List Share) : Int :=
  ((shares.filter (·.1 = q)).map (·.2.result.toInt)).sum

/-- What the results of a phase add up to over dialogs. -/
def Dialog.bytesOf (q : Phase) (ds : List Dialog) : Int := (ds.map (·.bytes q)).sum

/-- What the results of a phase add up to in a slot. -/
def Slot.bytes (q : Phase) (slot : Slot) : Int := slot.elim 0 (·.dialog.bytes q)

/-- What the results of a phase add up to over the open dialogs. -/
def DialogStore.bytes (q : Phase) (s : DialogStore) : Int :=
  s.entries.total fun _ o ↦ o.dialog.bytes q

variable (q : Phase)

theorem Share.bytes_append (shares more : List Share) :
    Share.bytes q (shares ++ more) = Share.bytes q shares + Share.bytes q more := by
  simp [Share.bytes]

theorem Share.bytes_singleton (p : Phase) (e : Event) :
    Share.bytes q [(p, e)] = if p = q then e.result.toInt else 0 := by
  by_cases h : p = q <;> simp [Share.bytes, h]

theorem Dialog.bytesOf_append (ds ds' : List Dialog) :
    Dialog.bytesOf q (ds ++ ds') = Dialog.bytesOf q ds + Dialog.bytesOf q ds' := by
  simp [Dialog.bytesOf]

/-- **An event brings its result into the books once.** -/
theorem Slot.Effect.bytes {settings : NetworkSettings} {slot slot' : Slot} {p : Phase} {e : Event}
    {ds : List Dialog} (h : Effect settings p e slot slot' ds) :
    Dialog.bytesOf q ds + slot'.bytes q =
      slot.bytes q + Share.bytes q (if admits slot p then [(p, e)] else []) := by
  cases h with
  | dropped hp hreq =>
    have hadmits : admits slot p = false := by simp [admits, hp, hreq]
    rw [hadmits, if_neg Bool.false_ne_true]
    exact Int.add_comm _ _
  | begun hp =>
    rw [admits_of_ne hp, if_pos rfl, Share.bytes_singleton]
    exact congrArg (0 + ·) (Dialog.bytes_ofEvent p e _ q)
  | @joined o hin hreq =>
    have hmerge := o.dialog.bytes_merge p e o.limit q
    rw [admits_some hreq, if_pos rfl, Share.bytes_singleton]
    show 0 + (o.dialog.merge p e o.limit).bytes q = o.dialog.bytes q + _
    rw [hmerge, Int.zero_add]
  | @superseded o hp hout =>
    rw [admits_of_ne hp, if_pos rfl, Share.bytes_singleton]
    show (o.dialog.bytes q + 0) + (Dialog.ofEvent p e settings.payloadLimit).bytes q =
      o.dialog.bytes q + _
    rw [Dialog.bytes_ofEvent, Int.add_zero]

namespace DialogStore

variable {s : DialogStore} {k : DialogKey}

theorem bytes_write {slot : Slot} (h : slot = none → s.entries.find? k = none) :
    (s.write k slot).bytes q + Slot.bytes q (s.entries.find? k) = s.bytes q + slot.bytes q := by
  cases slot with
  | none =>
    rw [h rfl]
    rfl
  | some o =>
    unfold bytes
    rw [entries_write_some]
    exact Table.total_insert _ _ _ _

/-- Reaping moves the bytes of the idle dialogs from the store to what is handed over. -/
theorem bytes_reap (settings : NetworkSettings) (now : Nat) (hs : s.Sound) :
    Dialog.bytesOf q (s.reap settings now).2.2 + (s.reap settings now).1.bytes q = s.bytes q := by
  -- the idle entries and the others are all entries, in another order
  have hperm := List.filter_append_perm (fun e ↦ isIdle settings now e.2) s.entries.entries
  have hsum := (hperm.map fun e ↦ e.2.dialog.bytes q).sum_eq
  rw [List.map_append, List.sum_append] at hsum
  unfold bytes Table.total
  rw [entries_reap settings now hs, reap_eq settings now hs, Dialog.bytesOf, List.map_map]
  exact hsum

variable {settings : NetworkSettings} {admitUdp : Bool}

theorem absorbed_consume_of_phase?_none {e : Event} (hp : e.phase? admitUdp = none) :
    s.absorbed admitUdp (.consume e) = [] := by
  rw [absorbed, NetworkCall.share?, hp]
  rfl

theorem absorbed_consume {e : Event} {p : Phase} (hp : e.phase? admitUdp = some p) :
    s.absorbed admitUdp (.consume e) =
      if Slot.admits (s.entries.find? (.ofEvent e)) p then [(p, e)] else [] := by
  rw [absorbed, NetworkCall.share?, hp]
  exact List.filter_cons

/-- **A call keeps the books.** -/
theorem bytes_step (hs : s.Sound) (c : NetworkCall) :
    Dialog.bytesOf q (s.step settings admitUdp c).2 + (s.step settings admitUdp c).1.bytes q =
      s.bytes q + Share.bytes q (s.absorbed admitUdp c) := by
  cases c with
  | reap now =>
    have hnone : Share.bytes q (s.absorbed admitUdp (.reap now)) = 0 := rfl
    rw [hnone, Int.add_zero]
    exact bytes_reap q settings now hs
  | consume e =>
    show Dialog.bytesOf q (s.consume settings admitUdp e).2 +
      (s.consume settings admitUdp e).1.bytes q = _
    cases hp : e.phase? admitUdp with
    | none =>
      rw [consume_of_phase?_none hp, absorbed_consume_of_phase?_none hp]
      exact Int.add_comm _ _
    | some p =>
      have heffect := (Slot.take_effect settings (s.entries.find? (.ofEvent e)) p e).bytes q
      have hempty : (Slot.take settings (s.entries.find? (.ofEvent e)) p e).1 = none →
        s.entries.find? (.ofEvent e) = none := Slot.eq_none_of_take
      have hwrite := bytes_write q hempty
      rw [consume_eq hs hp, absorbed_consume hp]
      dsimp only
      omega

end DialogStore

namespace NetworkWatcher

variable (w : NetworkWatcher)

/-- **A run keeps the books.** -/
theorem bytes_run_from (calls : List NetworkCall) {s : DialogStore} (hs : s.Sound) :
    Dialog.bytesOf q (Stepwise.run w.storeStep s calls).2 +
        (Stepwise.run w.storeStep s calls).1.bytes q =
      s.bytes q + Share.bytes q (Stepwise.run w.absorbStep s calls).2 := by
  induction calls generalizing s with
  | nil => exact Int.add_comm _ _
  | cons c calls ih =>
    have hsound : (w.storeStep s c).1.Sound := hs.step c
    have hfirst : Dialog.bytesOf q (w.storeStep s c).2 + (w.storeStep s c).1.bytes q =
      s.bytes q + Share.bytes q (w.absorbStep s c).2 := DialogStore.bytes_step q hs c
    have hrest := ih hsound
    have hsame : (w.absorbStep s c).1 = (w.storeStep s c).1 := rfl
    rw [Stepwise.run_cons, Stepwise.run_cons, Dialog.bytesOf_append, Share.bytes_append, hsame]
    dsimp only
    omega

/-! ### The account of a run -/

/-- A share that is not a response is always taken in. -/
theorem absorbed_filter_ne_response_from (calls : List NetworkCall) (s : DialogStore) :
    (Stepwise.run w.absorbStep s calls).2.filter (·.1 ≠ .response) =
      (calls.filterMap (·.share? w.admitUdp)).filter (·.1 ≠ .response) := by
  induction calls generalizing s with
  | nil => rfl
  | cons c calls ih =>
    have hfirst : (w.absorbStep s c).2.filter (·.1 ≠ .response) =
        (c.share? w.admitUdp).toList.filter (·.1 ≠ .response) := by
      show (List.filter _ _).filter _ = _
      rw [List.filter_filter]
      refine List.filter_congr fun x _ ↦ ?_
      by_cases hx : x.1 = .response
      · simp [hx]
      · simp [hx, Slot.admits_of_ne hx]
    rw [Stepwise.run_cons, List.filter_append, ih, hfirst, ← List.filter_append]
    congr 1
    cases h : c.share? w.admitUdp <;> simp [h]

/-- What is handed over is a dialog of some key. -/
theorem exists_key_of_mem_handed (calls : List NetworkCall) :
    ∀ d ∈ w.handed calls, ∃ k, d.key? = some k := by
  have hsound : ∀ s c, DialogStore.Sound s → (w.storeStep s c).1.Sound := fun _ c hs ↦ hs.step c
  refine Stepwise.run_output hsound (fun s c hs d hd ↦ ?_) DialogStore.sound_empty calls
  exact hs.exists_key c d hd

/-- A dialog that is open before a call stays or leaves at it. -/
theorem stays_or_leaves (calls : List NetworkCall) (c : NetworkCall) {k : DialogKey}
    {o : OpenDialog} (ho : (w.storeAfter calls).entries.find? k = some o) :
    let next := w.storeStep (w.storeAfter calls) c
    o.StaysOrLeaves w.settings.payloadLimit (next.1.entries.find? k)
      (next.2.filter (·.key? = some k)) := by
  intro next
  have hs := w.sound_storeAfter calls
  have hfind : next.1.entries.find? k = _ := DialogStore.find?_step hs c k
  have hhanded : next.2.filter (·.key? = some k) = _ := DialogStore.handed_step hs c k
  rw [hfind, hhanded, ho]
  rcases Slot.step_cases w.settings w.admitUdp k (some o) c with
    h | ⟨e, p, -, -, -, h⟩ | ⟨o', now, -, ho', -, h⟩
  · rw [h]
    exact .inl ⟨.inl rfl, rfl⟩
  · have heffect := Slot.take_effect w.settings (some o) p e
    rw [h]
    generalize Slot.take w.settings (some o) p e = after at heffect ⊢
    obtain ⟨slot', ds⟩ := after
    cases heffect with
    | dropped => exact .inl ⟨.inl rfl, rfl⟩
    | joined => exact .inl ⟨.inr ⟨p, e, rfl⟩, rfl⟩
    | superseded => exact .inr ⟨.inr ⟨p, e, rfl⟩, rfl⟩
  · rw [h, Option.some.inj ho']
    exact .inr ⟨.inl rfl, rfl⟩

/-- **The account of a run.** -/
structure Conserves (calls : List NetworkCall) : Prop where
  /-- Each dialog that is handed over is dispatched, once and in order, with the tuple behind it
  looked up. The records are what the dispatcher answers, and nothing else. -/
  dispatched :
    let outcome := Stepwise.run w.dispatcher.dispatch {} ((w.handed calls).map w.resolveNat)
    w.run calls = (⟨w.storeAfter calls, outcome.1⟩, outcome.2)
  /-- Connect events and requests that the watcher deals with are all taken in. -/
  accepted : (w.absorbed calls).filter (·.1 ≠ .response) =
    (calls.filterMap (·.share? w.admitUdp)).filter (·.1 ≠ .response)
  /-- A response that comes next is taken in where a request is stored under its key, and is
  dropped elsewhere. -/
  answered : ∀ e, e.phase? w.admitUdp = some .response →
    w.absorbed (calls ++ [.consume e]) = w.absorbed calls ++
      if ((w.storeAfter calls).entries.find? (.ofEvent e)).any (·.dialog.has .request) then
        [(.response, e)] else []
  /-- Under each key, what was taken in is cut into the dialogs that were handed over and the one
  that is open. -/
  cut : ∀ k, Slot.Cut w.settings.payloadLimit
    ((w.absorbed calls).filter (DialogKey.ofEvent ·.2 = k))
    ((w.handed calls).filter (·.key? = some k)) ((w.storeAfter calls).entries.find? k)
  /-- Each dialog that was handed over is of some key. -/
  keyed : ∀ d ∈ w.handed calls, ∃ k, d.key? = some k
  /-- A dialog leaves the store at the call that hands it over, and only there. -/
  leaves : ∀ c k o, (w.storeAfter calls).entries.find? k = some o →
    let next := w.storeStep (w.storeAfter calls) c
    o.StaysOrLeaves w.settings.payloadLimit (next.1.entries.find? k)
      (next.2.filter (·.key? = some k))
  /-- The bytes of the requests are those of the dialogs, handed over and open. -/
  requests : ((w.handed calls).map (·.requestSize)).sum +
      ((w.storeAfter calls).entries.values.map (·.dialog.requestSize)).sum =
    (((calls.filterMap (·.share? w.admitUdp)).filter (·.1 = .request)).map (·.2.result.toInt)).sum
  /-- The bytes of the responses that were taken in are those of the dialogs, handed over and
  open. -/
  responses : ((w.handed calls).map (·.responseSize)).sum +
      ((w.storeAfter calls).entries.values.map (·.dialog.responseSize)).sum =
    (((w.absorbed calls).filter (·.1 = .response)).map (·.2.result.toInt)).sum

/-- Handed over and open dialogs together count the bytes that were taken in. -/
theorem bytes_run (q : Phase) (calls : List NetworkCall) :
    ((w.handed calls).map (·.bytes q)).sum +
        ((w.storeAfter calls).entries.values.map (·.dialog.bytes q)).sum =
      Share.bytes q (w.absorbed calls) := by
  have h := w.bytes_run_from q calls DialogStore.sound_empty
  have hempty : ({} : DialogStore).bytes q = 0 := rfl
  rw [hempty, Int.zero_add, ← storeAfter_eq] at h
  have hvalues : (w.storeAfter calls).bytes q =
      ((w.storeAfter calls).entries.values.map (·.dialog.bytes q)).sum := by
    rw [DialogStore.bytes, Table.total, Table.values, List.map_map]
    rfl
  rw [← hvalues]
  exact h

/-- **Nothing is lost and nothing is counted twice**, in every run of every watcher. -/
theorem run_conserves (w : NetworkWatcher) (calls : List NetworkCall) : w.Conserves calls := by
  have haccepted := w.absorbed_filter_ne_response_from calls {}
  -- no request is left out, so the requests that were taken in are all there were
  have hrequests : (w.absorbed calls).filter (·.1 = .request) =
      (calls.filterMap (·.share? w.admitUdp)).filter (·.1 = .request) := by
    have hsplit : ∀ l : List Share, l.filter (·.1 = .request) =
        (l.filter (·.1 ≠ .response)).filter (·.1 = .request) := by
      intro l
      rw [List.filter_filter]
      refine List.filter_congr fun x _ ↦ ?_
      cases x.1 <;> rfl
    rw [hsplit, hsplit (calls.filterMap _)]
    exact congrArg _ haccepted
  refine {
    dispatched := ?_
    accepted := haccepted
    answered := fun e hp ↦ ?_
    cut := fun k ↦ ?_
    keyed := w.exists_key_of_mem_handed calls
    leaves := fun c k o ho ↦ w.stays_or_leaves calls c ho
    requests := ?_
    responses := w.bytes_run .response calls }
  · rw [storeAfter_eq]
    exact w.run_eq calls
  · have hstate : (Stepwise.run w.absorbStep {} calls).1 = w.storeAfter calls := by
      have hstep : ∀ s c, (w.absorbStep s c).1 = (w.storeStep s c).1 := fun _ _ ↦ rfl
      rw [storeAfter_eq]
      exact Stepwise.run_fst_congr hstep _ _
    have hnext : w.absorbed (calls ++ [.consume e]) = w.absorbed calls ++
        DialogStore.absorbed w.admitUdp (w.storeAfter calls) (.consume e) := by
      rw [absorbed, Stepwise.run_concat, hstate]
      rfl
    rw [hnext, DialogStore.absorbed_consume hp]
    rfl
  · have h := w.cut_run_from k calls DialogStore.sound_empty Slot.holds_nil
    rw [← storeAfter_eq] at h
    exact h
  · rw [← hrequests]
    exact w.bytes_run .request calls

/-- An exchange that a second request supersedes: the first dialog is handed over with what it took
in, the second is open. -/
example :
    let w : NetworkWatcher := .ofSettings {} .none
    let calls : List NetworkCall := [.consume (.sample "read" 500),
      .consume (.sample "write" 1000), .consume (.sample "read" 2000),
      .consume (.sample "write" 3000)]
    (w.absorbed calls).map (·.1) = [.request, .response, .request] ∧
      (w.handed calls).map (fun d ↦ (d.requestSize, d.responseSize)) = [(4, 4)] ∧
      (w.storeAfter calls).entries.values.map (·.dialog.requestSize) = [4] := by
  intro w calls
  rw [storeAfter_eq]
  exact ⟨rfl, rfl, rfl⟩

end NetworkWatcher

end SocketWatch
