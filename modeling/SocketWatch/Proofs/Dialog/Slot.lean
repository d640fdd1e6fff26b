import SocketWatch.Proofs.Dialog.Merge
import SocketWatch.Proofs.Dialog.Run
/-!
# The dialogs of one key

What the store holds under a key is a **slot**: nothing, or one open dialog. A call does something
to a slot that depends on that slot alone. `take` and `step` say what, without mentioning a store,
and `Effect` lists the four things an event can do, so that an invariant of slots is one case
analysis.

That the store really is a family of independent slots is not a definition but a theorem, and not
one about this module: it needs the invariant that a dialog stands under its own key, because a
dialog that is handed over is removed under the key its events have.
-/

namespace SocketWatch

/-- What the store holds under a key. -/
abbrev Slot := Option OpenDialog

namespace Slot

variable (settings : NetworkSettings) (admitUdp : Bool)

/-! ### What an event does -/

/-- Whether a dialog cannot take in an event any more, so that the event begins another one. A
response never begins a dialog. -/
def isSuperseded (d : Dialog) (p : Phase) (e : Event) : Bool :=
  match p with
  | .connect => DialogStore.supersededByConnect d e settings.connectTimeoutSecs
  | .request => DialogStore.supersededByRequest d e settings.requestTimeoutSecs
  | .response => false

/-- What an event of a phase does to the slot of its key, and what it hands over. -/
def take (slot : Slot) (p : Phase) (e : Event) : Slot × List Dialog :=
  match slot with
  | none => if p = .response then (none, []) else (some (.ofEvent p e settings.payloadLimit), [])
  | some o =>
    if isSuperseded settings o.dialog p e then
      (some (.ofEvent p e settings.payloadLimit), [o.dialog])
    else if p = .response ∧ o.dialog.has .request = false then (some o, [])
    else (some (o.merge p e), [])

/-- The four things an event can do to the slot of its key: the slot before, the slot after, and
what is handed over. -/
inductive Effect (p : Phase) (e : Event) : Slot → Slot → List Dialog → Prop where
  /-- A response without a request before it is dropped. -/
  | dropped {slot : Slot} (hp : p = .response) (hreq : slot.any (·.dialog.has .request) = false) :
    Effect p e slot slot []
  /-- An event that is not a response begins a dialog where there is none. -/
  | begun (hp : p ≠ .response) :
    Effect p e none (some (.ofEvent p e settings.payloadLimit)) []
  /-- The open dialog takes the event in. -/
  | joined {o : OpenDialog} (hin : isSuperseded settings o.dialog p e = false)
      (hreq : p = .response → o.dialog.has .request = true) :
    Effect p e (some o) (some (o.merge p e)) []
  /-- The open dialog is over, and the event begins the next one. -/
  | superseded {o : OpenDialog} (hp : p ≠ .response)
      (hout : isSuperseded settings o.dialog p e = true) :
    Effect p e (some o) (some (.ofEvent p e settings.payloadLimit)) [o.dialog]

theorem take_effect (slot : Slot) (p : Phase) (e : Event) :
    Effect settings p e slot (take settings slot p e).1 (take settings slot p e).2 := by
  unfold take
  cases slot with
  | none =>
    by_cases hp : p = .response
    · rw [if_pos hp]
      exact .dropped hp rfl
    · rw [if_neg hp]
      exact .begun hp
  | some o =>
    simp only
    by_cases hout : isSuperseded settings o.dialog p e = true
    · rw [if_pos hout]
      refine .superseded (fun hp ↦ ?_) hout
      subst hp
      exact absurd hout (by simp [isSuperseded])
    · rw [if_neg hout]
      by_cases hdrop : p = .response ∧ o.dialog.has .request = false
      · rw [if_pos hdrop]
        exact .dropped hdrop.1 hdrop.2
      · rw [if_neg hdrop]
        refine .joined (by simpa using hout) fun hp ↦ ?_
        simpa [hp] using hdrop

/-- An event never empties a slot. -/
theorem eq_none_of_take {settings : NetworkSettings} {slot : Slot} {p : Phase} {e : Event}
    (h : (take settings slot p e).1 = none) : slot = none := by
  have heffect := take_effect settings slot p e
  rw [h] at heffect
  generalize (take settings slot p e).2 = ds at heffect
  cases heffect
  rfl

/-! ### What a call does -/

/-- Hand over what is in a slot, if it passes a test. -/
def release (test : OpenDialog → Bool) : Slot → Slot × List Dialog
  | none => (none, [])
  | some o => if test o then (none, [o.dialog]) else (some o, [])

/-- What a call does to the slot of a key, and what it hands over. Events of other keys are not
about it. -/
def step (k : DialogKey) (slot : Slot) : NetworkCall → Slot × List Dialog
  | .consume e =>
    if DialogKey.ofEvent e = k then (e.phase? admitUdp).elim (slot, []) (take settings slot · e)
    else (slot, [])
  | .reap now => release (DialogStore.isIdle settings now) slot

variable {settings admitUdp} {k : DialogKey} {slot : Slot} {e : Event}

theorem step_consume {p : Phase} (he : .ofEvent e = k) (hp : e.phase? admitUdp = some p) :
    step settings admitUdp k slot (.consume e) = take settings slot p e := by
  simp only [step, he, if_true, hp, Option.elim_some]

theorem step_consume_of_phase?_none (hp : e.phase? admitUdp = none) :
    step settings admitUdp k slot (.consume e) = (slot, []) := by
  simp only [step, hp, Option.elim_none, ite_self]

theorem step_consume_of_ne (he : .ofEvent e ≠ k) :
    step settings admitUdp k slot (.consume e) = (slot, []) :=
  if_neg he

theorem release_cases (test : OpenDialog → Bool) (slot : Slot) :
    release test slot = (slot, []) ∨
      ∃ o, slot = some o ∧ test o = true ∧ release test slot = (none, [o.dialog]) := by
  cases slot with
  | none => exact .inl rfl
  | some o =>
    by_cases h : test o = true
    · exact .inr ⟨o, rfl, h, if_pos h⟩
    · exact .inl (if_neg h)

theorem release_fst_eq_some {test : OpenDialog → Bool} {slot : Slot} {o : OpenDialog} :
    (release test slot).1 = some o ↔ slot = some o ∧ test o = false := by
  cases slot with
  | none => simp [release]
  | some o' =>
    by_cases h : test o' = true
    · simp only [release, if_pos h, reduceCtorEq, Option.some.injEq, false_iff, not_and]
      rintro rfl
      simp [h]
    · simp only [release, if_neg h, Option.some.injEq, iff_self_and]
      rintro rfl
      simpa using h

theorem release_snd (test : OpenDialog → Bool) (slot : Slot) :
    (release test slot).2 = (slot.toList.filter test).map (·.dialog) := by
  cases slot with
  | none => rfl
  | some o => by_cases h : test o = true <;> simp [release, h]

/-- **A call leaves a slot alone, or it is an event of its key, or it reaps what is in it.** -/
theorem step_cases (settings : NetworkSettings) (admitUdp : Bool) (k : DialogKey) (slot : Slot)
    (c : NetworkCall) :
    step settings admitUdp k slot c = (slot, []) ∨
      (∃ e p, c = .consume e ∧ .ofEvent e = k ∧ e.phase? admitUdp = some p ∧
        step settings admitUdp k slot c = take settings slot p e) ∨
      ∃ o now, c = .reap now ∧ slot = some o ∧ DialogStore.isIdle settings now o = true ∧
        step settings admitUdp k slot c = (none, [o.dialog]) := by
  cases c with
  | consume e =>
    by_cases he : DialogKey.ofEvent e = k
    · cases hp : e.phase? admitUdp with
      | none => exact .inl (step_consume_of_phase?_none hp)
      | some p => exact .inr (.inl ⟨e, p, rfl, he, hp, step_consume he hp⟩)
    · exact .inl (step_consume_of_ne he)
  | reap now =>
    rcases release_cases (DialogStore.isIdle settings now) slot with h | ⟨o, ho, hidle, h⟩
    · exact .inl h
    · exact .inr (.inr ⟨o, now, rfl, ho, hidle, h⟩)

end Slot

/-! ### What holds of every slot -/

/-- What holds of an open dialog that stands under a key. -/
structure OpenDialog.Sound (k : DialogKey) (o : OpenDialog) : Prop where
  /-- It is a dialog of that key. -/
  key : o.dialog.key? = some k
  /-- Nothing is answered that was not asked. -/
  asked : o.dialog.has .response = true → o.dialog.has .request = true
  /-- It was not handed over yet. -/
  unpublished : o.published = false

namespace OpenDialog

variable {k : DialogKey} {o : OpenDialog} {p : Phase} {e : Event}

theorem Sound.isEmpty (ho : o.Sound k) : o.dialog.isEmpty = false :=
  o.dialog.isEmpty_of_key? ho.key

/-- A dialog that an event other than a response begins. -/
theorem sound_ofEvent (he : .ofEvent e = k) (hp : p ≠ .response) (limit : Nat) :
    (OpenDialog.ofEvent p e limit).Sound k where
  key := by rw [← he]; exact Dialog.key?_ofEvent p e limit
  asked h := by
    rw [ofEvent, Dialog.has_ofEvent] at h
    exact absurd (of_decide_eq_true h) hp
  unpublished := rfl

/-- A dialog that takes in an event of its key, a response only after a request. -/
theorem Sound.merge (ho : o.Sound k) (he : .ofEvent e = k)
    (hreq : p = .response → o.dialog.has .request = true) : (o.merge p e).Sound k where
  key := o.dialog.key?_merge p e o.limit ho.key he
  asked h := by
    rw [OpenDialog.merge, Dialog.has_merge, Bool.or_eq_true] at h ⊢
    rcases h with h | h
    · exact .inr (hreq (of_decide_eq_true h))
    · exact .inr (ho.asked h)
  unpublished := ho.unpublished

end OpenDialog

namespace Slot

variable {settings : NetworkSettings} {admitUdp : Bool} {k : DialogKey}

/-- What holds of the slot of a key. -/
def Sound (k : DialogKey) (slot : Slot) : Prop := ∀ o, slot = some o → o.Sound k

theorem sound_none : Sound k none := fun _ h ↦ by cases h

theorem sound_some {o : OpenDialog} : Sound k (some o) ↔ o.Sound k :=
  ⟨fun h ↦ h o rfl, fun h _ ho ↦ Option.some.inj ho ▸ h⟩

theorem Effect.sound {slot slot' : Slot} {p : Phase} {e : Event} {ds : List Dialog}
    (h : Effect settings p e slot slot' ds) (hs : Sound k slot) (he : .ofEvent e = k) :
    Sound k slot' := by
  cases h with
  | dropped => exact hs
  | begun hp => exact sound_some.2 (OpenDialog.sound_ofEvent he hp _)
  | joined _ hreq => exact sound_some.2 ((sound_some.1 hs).merge he hreq)
  | superseded hp => exact sound_some.2 (OpenDialog.sound_ofEvent he hp _)

/-- What an event hands over under its key is of that key. -/
theorem Effect.key {slot slot' : Slot} {p : Phase} {e : Event} {ds : List Dialog}
    (h : Effect settings p e slot slot' ds) (hs : Sound k slot) :
    ∀ d ∈ ds, d.key? = some k := by
  cases h with
  | superseded =>
    intro d hd
    rw [List.mem_singleton.1 hd]
    exact (sound_some.1 hs).key
  | _ => intro d hd; cases hd

/-- **A call keeps a slot sound.** -/
theorem sound_step {slot : Slot} (hs : Sound k slot) (c : NetworkCall) :
    Sound k (step settings admitUdp k slot c).1 := by
  rcases step_cases settings admitUdp k slot c with h | ⟨e, p, -, he, -, h⟩ | ⟨o, now, -, -, -, h⟩
  · rw [h]
    exact hs
  · rw [h]
    exact (take_effect settings slot p e).sound hs he
  · rw [h]
    exact sound_none

end Slot

end SocketWatch
