import SocketWatch.Dialog.Figures
import SocketWatch.Proofs.Dialog.Timing
/-!
# Figures that fit

Which figures fit depends on what the events are. Of the words of an event nothing is known but
that they are words, and then a figure can be too large. A **timely** event took no longer than the
time there was, and its time does not need the sign bit; that is what clocks and probes give. A
burst of timely events never counts more time than there was (`Burst.Timely.merge`), and from this
all figures of times fit, whatever comes of the results:

* the age of an event always fits (`Burst.ageFigures_fit`);
* the figures of the record of an exchange fit (`Dialog.Timely.exchangeFigures_fit`), because of all
  results it needs no sum;
* folding in an event has one figure that may be too large, the sum of the results of the phase
  (`Dialog.Timely.foldFigures_fit_iff`).
-/

namespace SocketWatch

theorem Figure.fits_unsigned {value : Int} :
    (unsigned value).fits = true ↔ 0 ≤ value ∧ value < Word.count 64 :=
  Word.fits_iff

theorem Figure.fits_signed {value : Int} :
    (signed value).fits = true ↔ Word.fitsSigned 64 value = true := Iff.rfl

/-- A result by itself fits. -/
theorem Event.fitsSigned_result (e : Event) : Word.fitsSigned 64 e.result.toInt = true :=
  Word.fitsSigned_int64 e.result

/-! ### Timely events -/

/-- The call began at time zero or later, and its time does not need the sign bit. -/
structure Event.Timely (e : Event) : Prop where
  /-- The call did not take longer than the time there was. -/
  begun : e.latency ≤ e.timestamp
  /-- The sign bit is not needed. -/
  bounded : e.timestamp.toNat < Word.count 63

instance (e : Event) : Decidable e.Timely :=
  decidable_of_iff (e.latency ≤ e.timestamp ∧ e.timestamp.toNat < Word.count 63)
    ⟨fun h ↦ ⟨h.1, h.2⟩, fun h ↦ ⟨h.begun, h.bounded⟩⟩

namespace Burst

variable {b : Burst} {e : Event}

/-- A burst of timely events. The time that it counts is not more than there was. -/
structure Timely (b : Burst) : Prop where
  /-- The event that began it is timely. -/
  first : b.first.Timely
  /-- The events that it keeps are. -/
  kept : ∀ e ∈ b.events, e.Timely
  /-- It counts no more time than there was. -/
  duration_le : b.duration ≤ b.lastTimestamp
  /-- The time of the last event does not need the sign bit. -/
  bounded : b.lastTimestamp < Word.count 63

theorem timely_ofEvent (he : e.Timely) (limit : Nat) : (ofEvent e limit).Timely where
  first := he
  kept := by simpa using he
  duration_le := UInt64.le_iff_toNat_le.1 he.begun
  bounded := he.bounded

/-- **One more timely event keeps a burst timely**: the time up to the event before is taken off
what is counted. -/
theorem Timely.merge (h : b.Timely) (he : e.Timely) : (b.merge e).Timely where
  first := h.first
  kept := by
    rw [events_merge]
    split
    · exact fun x hx ↦ (List.mem_append.1 hx).elim (h.kept x) fun hx ↦ List.mem_singleton.1 hx ▸ he
    · exact h.kept
  duration_le := by
    have hle := h.duration_le
    rw [duration_merge, lastTimestamp_merge]
    omega
  bounded := he.bounded

/-- The age of an event fits, whatever the events are. -/
theorem ageFigures_fit (b : Burst) (e : Event) : ∀ f ∈ b.ageFigures e, f.fits = true := by
  have hlt : e.timestamp.toNat < Word.count 64 := e.timestamp.toNat_lt
  unfold ageFigures
  split
  · exact List.forall_mem_nil _
  · intro f hf
    rw [List.mem_singleton.1 hf, Figure.fits_unsigned]
    omega

/-- **Adding a timely event fits if the results do.** -/
theorem Timely.mergeFigures_fit_iff (h : b.Timely) (he : e.Timely) :
    (∀ f ∈ b.mergeFigures e, f.fits = true) ↔
      Word.fitsSigned 64 (b.result + e.result.toInt) = true := by
  have htime : (Figure.unsigned (e.timestamp.toNat + b.duration)).fits = true := by
    have hcount : Word.count 64 = 2 * Word.count 63 := Word.count_succ 63
    have hduration := h.duration_le
    have hlast := h.bounded
    have hend := he.bounded
    rw [Figure.fits_unsigned]
    omega
  simp [mergeFigures, htime, Figure.fits_signed]

end Burst

/-! ### Dialogs of timely events -/

namespace Dialog

variable {d u : Dialog} {e : Event}

/-- A dialog of timely events. -/
def Timely (d : Dialog) : Prop := ∀ p b, d.get p = some b → b.Timely

theorem Timely.merge (hd : d.Timely) (he : e.Timely) (p : Phase) (limit : Nat) :
    (d.merge p e limit).Timely := by
  intro q b hb
  by_cases hp : p = q
  · subst hp
    rw [get_merge_self] at hb
    cases hold : d.get p with
    | none =>
      rw [hold] at hb
      exact Option.some.inj hb ▸ Burst.timely_ofEvent he limit
    | some b' =>
      rw [hold] at hb
      exact Option.some.inj hb ▸ (hd p b' hold).merge he
  · rw [get_merge_of_ne d hp] at hb
    exact hd q b hb

/-- A dialog that is made of timely events is timely. -/
theorem MadeOf.timely {shares : List Share} (hd : d.MadeOf shares)
    (h : ∀ x ∈ shares, x.2.Timely) : d.Timely := by
  induction hd with
  | nothing => intro p b hb; cases p <;> cases hb
  | merge hd p e limit ih =>
    refine (ih fun x hx ↦ h x (List.mem_append_left _ hx)).merge ?_ p limit
    exact h (p, e) (List.mem_append_right _ (List.mem_singleton_self _))

/-- The time of a phase is not more than there was. -/
theorem Timely.elim_duration_lt (hd : d.Timely) (p : Phase) :
    (d.get p).elim 0 (·.duration) < Word.count 63 := by
  cases hb : d.get p with
  | none => exact Word.count_pos 63
  | some b => exact Nat.lt_of_le_of_lt (hd p b hb).duration_le (hd p b hb).bounded

/-- **The figures of a record fit.** -/
theorem Timely.exchangeFigures_fit (hd : d.Timely) : ∀ f ∈ d.exchangeFigures, f.fits = true := by
  have hcount : Word.count 64 = 2 * Word.count 63 := Word.count_succ 63
  have htotal : (Figure.unsigned (d.connectDuration + d.duration)).fits = true := by
    have hconnect : d.connectDuration < Word.count 63 := hd.elim_duration_lt .connect
    have hduration : d.duration < Word.count 63 := by
      unfold duration
      split
      · rename_i request response hrequest hresponse
        have hlast := (hd .response response hresponse).bounded
        omega
      · exact Word.count_pos 63
    rw [Figure.fits_unsigned]
    omega
  have hwaiting : ∀ f ∈ d.waitingFigures, f.fits = true := by
    unfold waitingFigures
    split
    swap
    · exact List.forall_mem_nil _
    rename_i request response hrequest hresponse
    have hlast := (hd .request request hrequest).bounded
    have hfirst := (hd .response response hresponse).first
    have hend : response.firstTimestamp < Word.count 63 := hfirst.bounded
    have hlatency : response.first.latency.toNat ≤ response.firstTimestamp :=
      UInt64.le_iff_toNat_le.1 hfirst.begun
    intro f hf
    simp only [List.mem_cons, List.not_mem_nil, or_false, Time.signed_of_lt hend,
      Time.signed_of_lt hlast, Time.signed_of_lt (Nat.lt_of_le_of_lt hlatency hend)] at hf
    rcases hf with rfl | rfl <;> rw [Figure.fits_signed, Word.fitsSigned_iff] <;> omega
  unfold exchangeFigures
  split
  · intro f hf
    rcases List.mem_append.1 hf with hf | hf
    · exact hwaiting f hf
    · exact List.mem_singleton.1 hf ▸ htotal
  · exact List.forall_mem_nil _

/-- **Folding in a timely event fits if the results of its phase do**, or if the event does not
join them. -/
theorem Timely.foldFigures_fit_iff (hd : d.Timely) (he : e.Timely) (settings : NetworkSettings)
    (p : Phase) :
    (∀ f ∈ d.foldFigures settings p e, f.fits = true) ↔
      (Slot.isSuperseded settings d p e = false → (p = .response → d.has .request = true) →
        Word.fitsSigned 64 (d.bytes p + e.result.toInt) = true) := by
  have hage : ∀ f ∈ (d.get p).elim [] (·.ageFigures e), f.fits = true := by
    cases d.get p with
    | none => exact List.forall_mem_nil _
    | some b => exact b.ageFigures_fit e
  have hmerge : (∀ f ∈ (d.get p).elim [] (·.mergeFigures e), f.fits = true) ↔
      Word.fitsSigned 64 (d.bytes p + e.result.toInt) = true := by
    unfold bytes
    cases hb : d.get p with
    | none => simp [e.fitsSigned_result]
    | some b => exact (hd p b hb).mergeFigures_fit_iff he
  have hif : ∀ (c : Bool) (fs : List Figure), (∀ f ∈ if c then [] else fs, f.fits = true) ↔
      (c = false → ∀ f ∈ fs, f.fits = true) := by
    intro c fs
    cases c <;> simp
  cases p with
  | connect | request =>
    simp only [foldFigures, Slot.isSuperseded, List.forall_mem_append, hif, hmerge, reduceCtorEq,
      false_imp_iff, true_imp_iff]
    exact ⟨fun h ↦ h.2, fun h ↦ ⟨fun _ ↦ hage, h⟩⟩
  | response =>
    simp only [foldFigures, Slot.isSuperseded]
    cases d.has .request <;> simp [hmerge]

end Dialog

end SocketWatch
