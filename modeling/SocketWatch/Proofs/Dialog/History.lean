import SocketWatch.Proofs.Dialog.Rounds
/-!
# What a dialog was made of

A dialog keeps some of its events, and of the others only what they add up to. A statement about
every event that went into a dialog is therefore not about the dialog alone but about the shares
behind it, and here those are kept beside the store.

* `Dialog.MadeOf` relates a dialog to the shares that merging made it of. Each phase of the dialog
  is the burst of its own events (`MadeOf.get`), whatever came in between.
* `Slot.gather` is the step of a slot told on shares: those that a call takes in join the ones that
  are there, unless the call hands the dialog over; then they begin anew. What else a step can do
  with the shares is nothing but the five cases of `Slot.Gathering`, so that an invariant of the
  shares of a dialog is one case analysis.
* `NetworkWatcher.openShares` and `finishedShares` are the shares of a run, and
  `NetworkWatcher.account` says that they are what the run took in and what its dialogs are made of.
-/

namespace SocketWatch

/-! ### The events of a phase -/

/-- The events of a phase among shares, in order of arrival. -/
def Share.eventsOf (p : Phase) (shares : List Share) : List Event :=
  (shares.filter (·.1 = p)).map (·.2)

theorem Share.eventsOf_concat (p q : Phase) (shares : List Share) (e : Event) :
    eventsOf p (shares ++ [(q, e)]) = eventsOf p shares ++ if q = p then [e] else [] := by
  by_cases h : q = p <;> simp [eventsOf, h]

theorem Share.mem_eventsOf {p : Phase} {shares : List Share} {e : Event} :
    e ∈ eventsOf p shares ↔ (p, e) ∈ shares := by
  simp [eventsOf]

/-- A burst keeps nothing but events that went into it. -/
theorem Burst.mem_of_mem_events {limit : Nat} {es : List Event} {b : Burst}
    (h : ofEvents? limit es = some b) {e : Event} (he : e ∈ b.events) : e ∈ es := by
  induction es using List.reverseRecOn generalizing b with
  | nil => cases h
  | append_singleton es e' ih =>
    rw [ofEvents?_concat] at h
    cases hold : ofEvents? limit es with
    | none =>
      rw [hold] at h
      obtain rfl := Option.some.inj h
      exact List.mem_append_right _ he
    | some b' =>
      rw [hold] at h
      obtain rfl := Option.some.inj h
      replace he : e ∈ (b'.merge e').events := he
      rw [events_merge] at he
      split at he
      · rcases List.mem_append.1 he with he | he
        · exact List.mem_append_left _ (ih hold he)
        · exact List.mem_append_right _ he
      · exact List.mem_append_left _ (ih hold he)

/-! ### Dialogs made of shares -/

namespace Dialog

/-- The dialogs that merging makes of shares, one after the other; each phase may keep another
number of bytes. -/
inductive MadeOf : Dialog → List Share → Prop where
  /-- No share yet. -/
  | nothing (natTarget : Option FourTuple) : MadeOf { natTarget } []
  /-- One more share. -/
  | merge {d : Dialog} {shares : List Share} (hd : d.MadeOf shares) (p : Phase) (e : Event)
    (limit : Nat) : (d.merge p e limit).MadeOf (shares ++ [(p, e)])

theorem madeOf_ofShares (limit : Nat) (shares : List Share) :
    (ofShares limit shares).MadeOf shares := by
  induction shares using List.reverseRecOn with
  | nil => exact .nothing none
  | append_singleton shares x ih =>
    obtain ⟨p, e⟩ := x
    rw [ofShares_concat]
    exact ih.merge p e limit

/-- **A phase is the burst of its own events.** -/
theorem MadeOf.get {d : Dialog} {shares : List Share} (hd : d.MadeOf shares) (p : Phase) :
    ∃ limit, d.get p = Burst.ofEvents? limit (Share.eventsOf p shares) := by
  induction hd with
  | nothing => exact ⟨0, by cases p <;> rfl⟩
  | @merge d shares hd q e limit ih =>
    obtain ⟨limit', hget⟩ := ih
    by_cases hq : q = p
    · subst hq
      rw [get_merge_self, hget, Share.eventsOf_concat, if_pos rfl]
      -- the first event of a phase decides how much the phase keeps
      cases Share.eventsOf q shares with
      | nil => exact ⟨limit, rfl⟩
      | cons first later =>
        refine ⟨limit', ?_⟩
        rw [Burst.ofEvents?_concat]
        rfl
    · rw [get_merge_of_ne _ hq, hget, Share.eventsOf_concat, if_neg hq, List.append_nil]
      exact ⟨limit', rfl⟩

/-- A phase that has events has begun with the first of them. -/
theorem MadeOf.exists_get {d : Dialog} {shares : List Share} (hd : d.MadeOf shares) {p : Phase}
    {first : Event} {later : List Event} (h : Share.eventsOf p shares = first :: later) :
    ∃ limit b, d.get p = some b ∧ Burst.ofEvents? limit (first :: later) = some b ∧
      b.first = first := by
  obtain ⟨limit, hget⟩ := hd.get p
  rw [h] at hget
  obtain ⟨b, hb⟩ : ∃ b, Burst.ofEvents? limit (first :: later) = some b := ⟨_, rfl⟩
  have hhead := (Burst.ofEvents?_spec hb).1
  exact ⟨limit, b, hget.trans hb, hb, (Option.some.inj hhead).symm⟩

/-- A phase that has begun has events, of which the first began it. -/
theorem MadeOf.eventsOf_of_get {d : Dialog} {shares : List Share} (hd : d.MadeOf shares) {p : Phase}
    {b : Burst} (hb : d.get p = some b) :
    ∃ later, Share.eventsOf p shares = b.first :: later := by
  obtain ⟨limit, hget⟩ := hd.get p
  rw [hb] at hget
  have hhead := (Burst.ofEvents?_spec hget.symm).1
  exact List.head?_eq_some_iff.1 hhead

/-- The event that began a phase went into it. -/
theorem MadeOf.first_mem {d : Dialog} {shares : List Share} (hd : d.MadeOf shares) {p : Phase}
    {b : Burst} (hb : d.get p = some b) : (p, b.first) ∈ shares := by
  obtain ⟨later, hevents⟩ := hd.eventsOf_of_get hb
  exact Share.mem_eventsOf.1 (hevents ▸ List.mem_cons_self)

/-- What a phase keeps went into it. -/
theorem MadeOf.mem_of_mem_events {d : Dialog} {shares : List Share} (hd : d.MadeOf shares)
    {p : Phase} {b : Burst} (hb : d.get p = some b) {e : Event} (he : e ∈ b.events) :
    (p, e) ∈ shares := by
  obtain ⟨limit, hget⟩ := hd.get p
  exact Share.mem_eventsOf.1 (Burst.mem_of_mem_events (hget.symm.trans hb) he)

end Dialog

/-! ### The shares behind a slot -/

namespace Slot

/-- The slot that holds the dialog of shares, and nothing if there are none. -/
def ofShares (limit : Nat) (shares : List Share) : Slot :=
  if shares = [] then none else some { dialog := .ofShares limit shares, limit }

theorem holds_ofShares (limit : Nat) (shares : List Share) :
    Holds limit shares (ofShares limit shares) := rfl

theorem Holds.eq_ofShares {limit : Nat} {shares : List Share} {slot : Slot}
    (h : Holds limit shares slot) : slot = ofShares limit shares :=
  h

variable (settings : NetworkSettings) (admitUdp : Bool)

/-- What a call does to the shares behind the slot of a key, and those of which it completes a
dialog: as long as nothing is handed over the shares that it takes in are added, and else they are
the first ones of the next dialog. -/
def gather (k : DialogKey) (shares : List Share) (c : NetworkCall) :
    List Share × List (List Share) :=
  let slot := ofShares settings.payloadLimit shares
  let taken := absorbed admitUdp k slot c
  if (step settings admitUdp k slot c).2 = [] then (shares ++ taken, []) else (taken, [shares])

/-- The five things a call can do to the shares of a key: the shares before, the shares after, and
those of the dialog that is handed over. -/
inductive Gathering : List Share → List Share → List (List Share) → Prop where
  /-- The call is not about the key, or it brings nothing. -/
  | kept (shares : List Share) : Gathering shares shares []
  /-- An event that is not a response begins a dialog where there is none. -/
  | begun {p : Phase} (hp : p ≠ .response) (e : Event) : Gathering [] [(p, e)] []
  /-- The open dialog takes an event in. -/
  | joined {shares : List Share} {p : Phase} {e : Event} (hne : shares ≠ [])
    (hin : isSuperseded settings (.ofShares settings.payloadLimit shares) p e = false)
    (hreq : p = .response →
      (Dialog.ofShares settings.payloadLimit shares).has .request = true) :
    Gathering shares (shares ++ [(p, e)]) []
  /-- The open dialog is over, and an event begins the next one. -/
  | superseded {shares : List Share} {p : Phase} (hne : shares ≠ []) (hp : p ≠ .response)
    (e : Event) : Gathering shares [(p, e)] [shares]
  /-- The open dialog is reaped. -/
  | reaped {shares : List Share} (hne : shares ≠ []) : Gathering shares [] [shares]

variable {settings admitUdp} {k : DialogKey} {limit : Nat}

/-- Nothing is lost on the way. -/
theorem gather_flatten {shares : List Share} {slot : Slot}
    (hslot : Holds settings.payloadLimit shares slot) (c : NetworkCall) :
    (gather settings admitUdp k shares c).2.flatten ++ (gather settings admitUdp k shares c).1 =
      shares ++ absorbed admitUdp k slot c := by
  rw [hslot.eq_ofShares]
  simp only [gather]
  split
  · rfl
  · rw [List.flatten_singleton]

/-- A call that hands nothing over adds what it takes in. -/
theorem gather_of_kept {shares taken : List Share} {slot slot' : Slot} {c : NetworkCall}
    (hslot : Holds settings.payloadLimit shares slot)
    (hstep : step settings admitUdp k slot c = (slot', []))
    (htaken : absorbed admitUdp k slot c = taken) :
    gather settings admitUdp k shares c = (shares ++ taken, []) := by
  rw [hslot.eq_ofShares] at hstep htaken
  simp only [gather, hstep, htaken, if_true]

/-- A call that hands a dialog over begins anew with what it takes in. -/
theorem gather_of_handed {shares taken : List Share} {slot slot' : Slot} {c : NetworkCall}
    {d : Dialog} (hslot : Holds settings.payloadLimit shares slot)
    (hstep : step settings admitUdp k slot c = (slot', [d]))
    (htaken : absorbed admitUdp k slot c = taken) :
    gather settings admitUdp k shares c = (taken, [shares]) := by
  rw [hslot.eq_ofShares] at hstep htaken
  simp only [gather, hstep, htaken, List.cons_ne_nil, if_false]

variable (settings admitUdp k) in
/-- A call does to a slot what it does to the shares behind it, and that is one of the five
things. -/
structure Mirrors (shares : List Share) (slot : Slot) (c : NetworkCall) : Prop where
  /-- What happens to the shares. -/
  gathering : Gathering settings shares (gather settings admitUdp k shares c).1
    (gather settings admitUdp k shares c).2
  /-- The slot holds the dialog of the shares. -/
  holds : Holds settings.payloadLimit (gather settings admitUdp k shares c).1
    (step settings admitUdp k slot c).1
  /-- What is handed over is the dialog of the shares that are done with. -/
  handed : (step settings admitUdp k slot c).2 =
    (gather settings admitUdp k shares c).2.map (Dialog.ofShares settings.payloadLimit)

theorem Mirrors.of_eq {shares after : List Share} {finished : List (List Share)}
    {slot slot' : Slot} {ds : List Dialog} {c : NetworkCall}
    (hgather : gather settings admitUdp k shares c = (after, finished))
    (hstep : step settings admitUdp k slot c = (slot', ds))
    (hgathering : Gathering settings shares after finished)
    (hholds : Holds settings.payloadLimit after slot')
    (hhanded : ds = finished.map (Dialog.ofShares settings.payloadLimit)) :
    Mirrors settings admitUdp k shares slot c where
  gathering := by rwa [hgather]
  holds := by rwa [hgather, hstep]
  handed := by rwa [hgather, hstep]

theorem mirrors_of_kept {shares : List Share} {slot : Slot} {c : NetworkCall}
    (hslot : Holds settings.payloadLimit shares slot)
    (hstep : step settings admitUdp k slot c = (slot, []))
    (htaken : absorbed admitUdp k slot c = []) : Mirrors settings admitUdp k shares slot c := by
  have hgather := gather_of_kept hslot hstep htaken
  rw [List.append_nil] at hgather
  exact .of_eq hgather hstep (.kept shares) hslot rfl

/-- An event of the key. -/
theorem mirrors_take {shares : List Share} {slot : Slot} {p : Phase} {e : Event}
    (hslot : Holds settings.payloadLimit shares slot) (he : .ofEvent e = k)
    (hp : e.phase? admitUdp = some p) :
    Mirrors settings admitUdp k shares slot (.consume e) := by
  have htaken : absorbed admitUdp k slot (.consume e) = if admits slot p then [(p, e)] else [] := by
    rw [absorbed_consume hp, he, decide_eq_true rfl, Bool.true_and]
  have hstep : step settings admitUdp k slot (.consume e) = _ := step_consume he hp
  have heffect := take_effect settings slot p e
  generalize take settings slot p e = after at heffect hstep
  obtain ⟨slot', ds⟩ := after
  cases heffect with
  | dropped hresp hreq =>
    refine mirrors_of_kept hslot hstep ?_
    rw [htaken, admits, hresp, hreq]
    rfl
  | begun hresp =>
    rw [admits_of_ne hresp, if_pos rfl] at htaken
    have hgather := gather_of_kept hslot hstep htaken
    obtain rfl := hslot.eq_nil
    exact .of_eq hgather hstep (.begun hresp e) (holds_ofEvent _ p e) rfl
  | @joined o hin hreq =>
    rw [admits_some hreq, if_pos rfl] at htaken
    have hgather := gather_of_kept hslot hstep htaken
    obtain ⟨hne, rfl⟩ := hslot.eq_dialog
    exact .of_eq hgather hstep (.joined hne hin hreq) (holds_concat _ shares p e) rfl
  | @superseded o hresp hout =>
    rw [admits_of_ne hresp, if_pos rfl] at htaken
    have hgather := gather_of_handed hslot hstep htaken
    obtain ⟨hne, rfl⟩ := hslot.eq_dialog
    exact .of_eq hgather hstep (.superseded hne hresp e) (holds_ofEvent _ p e) rfl

/-- **A slot steps as the shares behind it do.** -/
theorem mirrors {shares : List Share} {slot : Slot}
    (hslot : Holds settings.payloadLimit shares slot) (c : NetworkCall) :
    Mirrors settings admitUdp k shares slot c := by
  cases c with
  | consume e =>
    cases hp : e.phase? admitUdp with
    | none =>
      exact mirrors_of_kept hslot (step_consume_of_phase?_none hp)
        (absorbed_consume_of_phase?_none hp)
    | some p =>
      by_cases he : DialogKey.ofEvent e = k
      · exact mirrors_take hslot he hp
      · refine mirrors_of_kept hslot (step_consume_of_ne he) ?_
        rw [absorbed_consume hp, decide_eq_false he]
        rfl
  | reap now =>
    rcases release_cases (DialogStore.isIdle settings now) slot with h | ⟨o, rfl, -, h⟩
    · exact mirrors_of_kept hslot h rfl
    · have hstep : step settings admitUdp k (some o) (.reap now) = (none, [o.dialog]) := h
      have hgather := gather_of_handed hslot hstep rfl
      obtain ⟨hne, rfl⟩ := hslot.eq_dialog
      exact .of_eq hgather hstep (.reaped hne) holds_nil rfl

end Slot

/-! ### The shares of a run -/

namespace NetworkWatcher

variable (w : NetworkWatcher) (k : DialogKey)

/-- The shares behind the dialog that is open under a key after calls, in order of arrival; none
where nothing is open. -/
def openShares (calls : List NetworkCall) : List Share :=
  (Stepwise.run (Slot.gather w.settings w.admitUdp k) [] calls).1

/-- The shares behind each dialog of a key that calls hand over, in order. -/
def finishedShares (calls : List NetworkCall) : List (List Share) :=
  (Stepwise.run (Slot.gather w.settings w.admitUdp k) [] calls).2

/-- **The account of a run under a key.** What was taken in are the shares of the dialogs, those
that were handed over before the one that is open; what was handed over and what is open is made
of them. -/
structure Account (calls : List NetworkCall) (finished : List (List Share))
    (current : List Share) : Prop where
  /-- All of what was taken in, in order, and nothing else. -/
  taken : (w.absorbed calls).filter (DialogKey.ofEvent ·.2 = k) = finished.flatten ++ current
  /-- The dialogs that were handed over. -/
  handed : (w.handed calls).filter (·.key? = some k) =
    finished.map (Dialog.ofShares w.settings.payloadLimit)
  /-- The dialog that is open. -/
  stored : Slot.Holds w.settings.payloadLimit current ((w.storeAfter calls).entries.find? k)

/-- The account of any stretch of calls. The induction is on the calls; the shares that the slot
holds at the beginning of a stretch go on in it. -/
theorem account_from (calls : List NetworkCall) {s : DialogStore} (hs : s.Sound)
    {shares : List Share}
    (hslot : Slot.Holds w.settings.payloadLimit shares (s.entries.find? k)) :
    let after := Stepwise.run (Slot.gather w.settings w.admitUdp k) shares calls
    shares ++ (Stepwise.run w.absorbStep s calls).2.filter (DialogKey.ofEvent ·.2 = k) =
        after.2.flatten ++ after.1 ∧
      (Stepwise.run w.storeStep s calls).2.filter (·.key? = some k) =
        after.2.map (Dialog.ofShares w.settings.payloadLimit) ∧
      Slot.Holds w.settings.payloadLimit after.1
        ((Stepwise.run w.storeStep s calls).1.entries.find? k) := by
  induction calls generalizing s shares with
  | nil => exact ⟨by simp, rfl, hslot⟩
  | cons c calls ih =>
    have hsound : (w.storeStep s c).1.Sound := hs.step c
    have hmirrors : Slot.Mirrors w.settings w.admitUdp k shares (s.entries.find? k) c :=
      Slot.mirrors hslot c
    have hflatten : (Slot.gather w.settings w.admitUdp k shares c).2.flatten ++
        (Slot.gather w.settings w.admitUdp k shares c).1 =
          shares ++ Slot.absorbed w.admitUdp k (s.entries.find? k) c := Slot.gather_flatten hslot c
    have htaken : (w.absorbStep s c).2.filter (DialogKey.ofEvent ·.2 = k) =
        Slot.absorbed w.admitUdp k (s.entries.find? k) c := s.absorbed_filter_key w.admitUdp c k
    have hhanded : (w.storeStep s c).2.filter (·.key? = some k) = _ :=
      DialogStore.handed_step hs c k
    have hfind : (w.storeStep s c).1.entries.find? k = _ := DialogStore.find?_step hs c k
    obtain ⟨hrest, hmore, hheld⟩ := ih hsound (hfind ▸ hmirrors.holds)
    refine ⟨?_, ?_, hheld⟩
    · calc shares ++ (Stepwise.run w.absorbStep s (c :: calls)).2.filter
            (DialogKey.ofEvent ·.2 = k)
          = (shares ++ (w.absorbStep s c).2.filter (DialogKey.ofEvent ·.2 = k)) ++
              (Stepwise.run w.absorbStep (w.storeStep s c).1 calls).2.filter
                (DialogKey.ofEvent ·.2 = k) := by
            rw [Stepwise.run_cons, List.filter_append, List.append_assoc]
            rfl
        _ = (Slot.gather w.settings w.admitUdp k shares c).2.flatten ++
              ((Slot.gather w.settings w.admitUdp k shares c).1 ++
                (Stepwise.run w.absorbStep (w.storeStep s c).1 calls).2.filter
                  (DialogKey.ofEvent ·.2 = k)) := by
            rw [htaken, ← hflatten, List.append_assoc]
        _ = _ := by
            rw [hrest, Stepwise.run_cons, List.flatten_append, List.append_assoc]
    · rw [Stepwise.run_cons, List.filter_append, hhanded, hmirrors.handed, hmore,
        Stepwise.run_cons, List.map_append]

/-- **The shares of a run account for it.** -/
theorem account (calls : List NetworkCall) :
    w.Account k calls (w.finishedShares k calls) (w.openShares k calls) := by
  obtain ⟨htaken, hhanded, hstored⟩ :=
    w.account_from k calls DialogStore.sound_empty Slot.holds_nil
  refine ⟨htaken, hhanded, ?_⟩
  rw [storeAfter_eq]
  exact hstored

variable {w k} {calls : List NetworkCall}

/-- What is open under a key is the dialog of the open shares. -/
theorem eq_ofShares_of_find? {o : OpenDialog}
    (ho : (w.storeAfter calls).entries.find? k = some o) :
    o = { dialog := .ofShares w.settings.payloadLimit (w.openShares k calls),
          limit := w.settings.payloadLimit } := by
  have hstored := (w.account k calls).stored
  rw [ho] at hstored
  exact hstored.eq_dialog.2

/-- The open shares of a key are of that key. -/
theorem ofEvent_of_mem_openShares {x : Share} (hx : x ∈ w.openShares k calls) :
    DialogKey.ofEvent x.2 = k := by
  have hmem : x ∈ (w.absorbed calls).filter (DialogKey.ofEvent ·.2 = k) := by
    rw [(w.account k calls).taken]
    exact List.mem_append_right _ hx
  exact of_decide_eq_true (List.mem_filter.1 hmem).2

theorem openShares_concat (c : NetworkCall) :
    w.openShares k (calls ++ [c]) =
      (Slot.gather w.settings w.admitUdp k (w.openShares k calls) c).1 := by
  rw [openShares, Stepwise.run_concat]
  rfl

/-- What is taken in comes from the calls. -/
theorem mem_calls_of_mem_absorbed {x : Share} (hx : x ∈ w.absorbed calls) :
    .consume x.2 ∈ calls := by
  induction calls using List.reverseRecOn with
  | nil => cases hx
  | append_singleton calls c ih =>
    rw [absorbed, Stepwise.run_concat] at hx
    rcases List.mem_append.1 hx with h | h
    · exact List.mem_append_left _ (ih h)
    · cases c with
      | reap now => cases (List.mem_filter.1 h).1
      | consume e =>
        have hshare := Option.mem_toList.1 (List.mem_filter.1 h).1
        obtain ⟨p, -, rfl⟩ := Option.map_eq_some_iff.1 hshare
        exact List.mem_append_right _ (List.mem_singleton_self _)

theorem mem_calls_of_mem_openShares {x : Share} (hx : x ∈ w.openShares k calls) :
    .consume x.2 ∈ calls := by
  have hmem : x ∈ (w.absorbed calls).filter (DialogKey.ofEvent ·.2 = k) := by
    rw [(w.account k calls).taken]
    exact List.mem_append_right _ hx
  exact mem_calls_of_mem_absorbed (List.mem_filter.1 hmem).1

/-- **A dialog that was handed over was made of events of one key**, all of which are in the
calls. -/
theorem exists_shares_of_mem_handed {d : Dialog} (hd : d ∈ w.handed calls) :
    ∃ k shares, d = .ofShares w.settings.payloadLimit shares ∧
      ∀ x ∈ shares, DialogKey.ofEvent x.2 = k ∧ .consume x.2 ∈ calls := by
  obtain ⟨k, hk⟩ := w.exists_key_of_mem_handed calls d hd
  have hmem : d ∈ (w.handed calls).filter (·.key? = some k) :=
    List.mem_filter.2 ⟨hd, decide_eq_true hk⟩
  rw [(w.account k calls).handed] at hmem
  obtain ⟨shares, hshares, rfl⟩ := List.mem_map.1 hmem
  refine ⟨k, shares, rfl, fun x hx ↦ ?_⟩
  have htaken : x ∈ (w.absorbed calls).filter (DialogKey.ofEvent ·.2 = k) := by
    rw [(w.account k calls).taken]
    exact List.mem_append_left _ (List.mem_flatten.2 ⟨shares, hshares, hx⟩)
  obtain ⟨habsorbed, hkey⟩ := List.mem_filter.1 htaken
  exact ⟨of_decide_eq_true hkey, mem_calls_of_mem_absorbed habsorbed⟩

/-- What a call hands over was made of the open shares of a key. -/
theorem exists_openShares_of_handed {c : NetworkCall} {d : Dialog}
    (hd : d ∈ (w.storeStep (w.storeAfter calls) c).2) :
    ∃ k, d = .ofShares w.settings.payloadLimit (w.openShares k calls) := by
  have hsound := w.sound_storeAfter calls
  obtain ⟨k, hk⟩ := hsound.exists_key c d hd
  have hslot : d ∈ (Slot.step w.settings w.admitUdp k ((w.storeAfter calls).entries.find? k) c).2 :=
    DialogStore.handed_step hsound c k ▸ List.mem_filter.2 ⟨hd, decide_eq_true hk⟩
  rw [(Slot.mirrors (w.account k calls).stored c).handed] at hslot
  obtain ⟨shares, hshares, rfl⟩ := List.mem_map.1 hslot
  refine ⟨k, ?_⟩
  simp only [Slot.gather] at hshares
  split at hshares
  · cases hshares
  · rw [List.mem_singleton.1 hshares]

/-- **What holds of no shares, and what all five cases keep, holds of the open shares.** -/
theorem openShares_invariant {I : List Share → Prop} (hnil : I [])
    (hkeep : ∀ shares after finished, Slot.Gathering w.settings shares after finished →
      I shares → I after) (k : DialogKey) (calls : List NetworkCall) :
    I (w.openShares k calls) := by
  refine Stepwise.run_invariant (fun shares c hshares ↦ ?_) hnil calls
  exact hkeep _ _ _ (Slot.mirrors (Slot.holds_ofShares _ shares) c).gathering hshares

end NetworkWatcher

end SocketWatch
