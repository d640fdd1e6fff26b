import Mathlib.Algebra.Ring.Int.Defs
import Mathlib.Data.List.Induction
import SocketWatch.Proofs.Dialog.Figures
import SocketWatch.Proofs.Dispatch.Finding
import SocketWatch.Watcher
/-!
# Runs whose figures fit

The dialog watcher computes in numbers without bound and its figures go into words, so what is
proved about its runs is about a program only where all figures of the run fit. Where the events are
timely this comes down to a single kind of figure, the sum of the results of a phase, and there it
cannot be avoided: **the figures of a run of timely events fit if, and only if, the results of every
phase of every open dialog add up to something that fits, at every moment of the run**
(`NetworkWatcher.figures_fit_iff`). What is asked about results is asked of the events alone, by way
of the shares behind the open dialogs (`Share.TotalsFit`).

The proof goes call by call. What a call hands over is dispatched, and every record made in doing so
is of an exchange of a timely dialog, so its figures fit (`dispatchFigures_fit`). What is left are
the figures of folding an event in, and those fit exactly where the totals still do afterwards
(`Slot.foldFigures_fit_iff`).

Events that are not timely have figures that do not fit (`NetworkWatcher.figure_overflow`).
-/

namespace SocketWatch

open Wire (Protocol)

/-! ### Records are made of exchanges -/

namespace Dispatcher

variable {r : Dispatcher} {d u : Dialog}

theorem isExchange_of_mem_multiplexedReported {p : Protocol} (h : u ∈ multiplexedReported p d) :
    d.IsExchange u := by
  unfold multiplexedReported at h
  cases hrequest : d.request with
  | none =>
    rw [hrequest] at h
    cases h
  | some burst =>
    simp only [hrequest] at h
    split at h
    · cases h
    rename_i messages hmessages
    rcases List.mem_append.1 h with h | h
    · obtain ⟨⟨i, a, found⟩, hfound, h⟩ := List.mem_filterMap.1 h
      obtain ⟨q, hq, rfl⟩ := Option.map_eq_some_iff.1 h
      obtain ⟨answer, hanswer, hsome⟩ := List.mem_filterMap.1 hfound
      obtain ⟨response, hresponse, hread⟩ := List.mem_map.1 ((List.takeWhile_sublist _).mem hanswer)
      obtain ⟨m, j, request, -, -, -, heq⟩ := answer?_eq_some (hread.trans hsome)
      obtain ⟨rfl, rfl, -⟩ : i = j ∧ a = response ∧ _ := by simpa using heq
      cases hresponses : d.response with
      | none =>
        rw [hresponses] at hresponse
        cases hresponse
      | some responses =>
        rw [hresponses] at hresponse
        exact .answered hrequest hresponses (List.mem_of_getElem? hq) hresponse
    · split at h
      swap
      · cases h
      obtain ⟨⟨q, i⟩, hmem, h⟩ := List.mem_filterMap.1 h
      have hq : q ∈ burst.events := List.mem_of_getElem? (List.mem_zipIdx_iff_getElem?.1 hmem)
      simp only at h
      split at h
      · cases h
      · exact Option.some.inj h ▸ .asked hrequest hq

/-- **Every record that is made in a dispatch is of an exchange of the dialog.** -/
theorem isExchange_of_mem_reported {l : Learned} (h : u ∈ r.reported l d) : d.IsExchange u := by
  unfold reported at h
  split at h
  swap
  · cases h
  rcases List.mem_append.1 h with h | h
  · obtain ⟨i, -, h⟩ := List.mem_flatMap.1 h
    unfold reportedAt at h
    split at h
    · cases h
    split at h
    · exact isExchange_of_mem_multiplexedReported h
    · split at h
      · exact List.mem_singleton.1 h ▸ .whole
      · cases h
  · split at h
    · cases h
    · exact List.mem_singleton.1 h ▸ .whole

end Dispatcher

namespace Dialog

variable {d u : Dialog}

theorem timely_single {q : Event} {a : Option Event} (hq : q.Timely) (ha : ∀ a' ∈ a, a'.Timely)
    (natTarget : Option FourTuple) (limit : Nat) : (single q a natTarget limit).Timely := by
  intro p b hb
  cases p with
  | connect => cases hb
  | request => exact Option.some.inj hb ▸ Burst.timely_ofEvent hq limit
  | response =>
    obtain ⟨a', ha', rfl⟩ := Option.map_eq_some_iff.1 hb
    exact Burst.timely_ofEvent (ha a' ha') limit

/-- An exchange of a timely dialog is timely: what a burst keeps are events that went into it. -/
theorem IsExchange.timely (hu : d.IsExchange u) (hd : d.Timely) : u.Timely := by
  cases hu with
  | whole => exact hd
  | asked hrequest hq => exact timely_single ((hd .request _ hrequest).kept _ hq) (by simp) _ _
  | answered hrequest hresponse hq ha =>
    refine timely_single ((hd .request _ hrequest).kept _ hq) (fun a' ha' ↦ ?_) _ _
    exact Option.some.inj ha' ▸ (hd .response _ hresponse).kept _ ha

end Dialog

/-! ### What the results of a phase add up to -/

namespace Share

variable {shares : List Share} {p q : Phase} {e : Event}

/-- What the results of the events of a phase add up to. -/
def total (p : Phase) (shares : List Share) : Int :=
  ((eventsOf p shares).map (·.result.toInt)).sum

theorem total_concat (p q : Phase) (shares : List Share) (e : Event) :
    total p (shares ++ [(q, e)]) = total p shares + if q = p then e.result.toInt else 0 := by
  rw [total, eventsOf_concat]
  split <;> simp [total]

/-- The results of every phase add up to something that fits. -/
def TotalsFit (shares : List Share) : Prop := ∀ p, Word.fitsSigned 64 (total p shares) = true

instance (shares : List Share) : Decidable (TotalsFit shares) :=
  decidable_of_iff (∀ p ∈ [Phase.connect, .request, .response],
    Word.fitsSigned 64 (total p shares) = true)
    ⟨fun h p ↦ h p (by cases p <;> decide), fun h p _ ↦ h p⟩

theorem totalsFit_nil : TotalsFit [] := fun p ↦ by cases p <;> decide

/-- With one more event it is the phase of that event that counts. -/
theorem TotalsFit.concat_iff (h : TotalsFit shares) :
    TotalsFit (shares ++ [(p, e)]) ↔
      Word.fitsSigned 64 (total p shares + e.result.toInt) = true := by
  constructor
  · intro hconcat
    have hp := hconcat p
    rwa [total_concat, if_pos rfl] at hp
  · intro hp q
    rw [total_concat]
    split
    · rename_i hq
      exact hq ▸ hp
    · simpa using h q

theorem totalsFit_singleton (p : Phase) (e : Event) : TotalsFit [(p, e)] := by
  have hfits : Word.fitsSigned 64 (total p [] + e.result.toInt) = true := by
    rw [show total p [] = 0 from rfl, Int.zero_add]
    exact e.fitsSigned_result
  exact totalsFit_nil.concat_iff.2 hfits

end Share

theorem Dialog.bytes_ofShares (limit : Nat) (shares : List Share) (p : Phase) :
    (Dialog.ofShares limit shares).bytes p = Share.total p shares := by
  induction shares using List.reverseRecOn with
  | nil => cases p <;> rfl
  | append_singleton shares x ih =>
    rw [ofShares_concat, bytes_merge, ih, Share.total_concat]

/-! ### One event -/

namespace Slot

variable {settings : NetworkSettings} {admitUdp : Bool} {k : DialogKey} {shares : List Share}
  {slot : Slot} {p : Phase} {e : Event}

/-- **The figures of folding an event in fit exactly where the totals still do afterwards.** -/
theorem foldFigures_fit_iff (hslot : Holds settings.payloadLimit shares slot)
    (htimely : ∀ x ∈ shares, x.2.Timely) (hfit : Share.TotalsFit shares) (he : e.Timely)
    (hkey : .ofEvent e = k) (hp : e.phase? admitUdp = some p) :
    (∀ f ∈ slot.elim [] (·.dialog.foldFigures settings p e), f.fits = true) ↔
      Share.TotalsFit (gather settings admitUdp k shares (.consume e)).1 := by
  have htaken : absorbed admitUdp k slot (.consume e) = if admits slot p then [(p, e)] else [] := by
    rw [absorbed_consume hp, hkey, decide_eq_true rfl, Bool.true_and]
  have hstep : step settings admitUdp k slot (.consume e) = _ := step_consume hkey hp
  have heffect := take_effect settings slot p e
  generalize take settings slot p e = after at heffect hstep
  obtain ⟨slot', ds⟩ := after
  have hfold : ∀ o, slot = some o → ((∀ f ∈ o.dialog.foldFigures settings p e, f.fits = true) ↔
      (isSuperseded settings o.dialog p e = false → (p = .response → o.dialog.has .request = true) →
        Word.fitsSigned 64 (Share.total p shares + e.result.toInt) = true)) := by
    rintro o rfl
    obtain ⟨-, rfl⟩ := hslot.eq_dialog
    rw [← Dialog.bytes_ofShares settings.payloadLimit]
    exact ((Dialog.madeOf_ofShares _ shares).timely htimely).foldFigures_fit_iff he settings p
  cases heffect with
  | dropped hresp hreq =>
    have hnone : absorbed admitUdp k slot' (.consume e) = [] := by
      rw [htaken, admits, hresp, hreq]
      rfl
    rw [gather_of_kept hslot hstep hnone, List.append_nil]
    refine iff_of_true ?_ hfit
    cases slot' with
    | none => exact List.forall_mem_nil _
    | some o =>
      have hno : o.dialog.has .request = false := hreq
      refine (hfold o rfl).2 fun _ hhas ↦ ?_
      exact absurd (hno.symm.trans (hhas hresp)) Bool.false_ne_true
  | begun hresp =>
    rw [admits_of_ne hresp, if_pos rfl] at htaken
    obtain rfl := hslot.eq_nil
    rw [gather_of_kept hslot hstep htaken]
    exact iff_of_true (List.forall_mem_nil _) (Share.totalsFit_singleton p e)
  | @joined o hin hreq =>
    rw [admits_some hreq, if_pos rfl] at htaken
    rw [gather_of_kept hslot hstep htaken, hfit.concat_iff]
    exact (hfold o rfl).trans ⟨fun h ↦ h hin hreq, fun h _ _ ↦ h⟩
  | @superseded o hresp hout =>
    rw [admits_of_ne hresp, if_pos rfl] at htaken
    rw [gather_of_handed hslot hstep htaken]
    refine iff_of_true ((hfold o rfl).2 fun hin ↦ ?_) (Share.totalsFit_singleton p e)
    exact absurd (hin.symm.trans hout) Bool.false_ne_true

/-- Where nothing is taken in the totals still fit: the shares are the same, or there are none. -/
theorem totalsFit_gather {c : NetworkCall} (hfit : Share.TotalsFit shares)
    (h : absorbed admitUdp k (ofShares settings.payloadLimit shares) c = []) :
    Share.TotalsFit (gather settings admitUdp k shares c).1 := by
  simp only [gather, h, List.append_nil]
  split
  · exact hfit
  · exact Share.totalsFit_nil

end Slot

/-! ### Runs -/

namespace NetworkWatcher

variable (w : NetworkWatcher)

/-- The figures of a call. -/
def figures (s : NetworkState) : NetworkCall → List Figure
  | .consume e => w.consumeFigures s e
  | .reap now => w.reapFigures s now

/-- The step of a watcher, with its figures for output. -/
def figureStep (s : NetworkState) (c : NetworkCall) : NetworkState × List Figure :=
  ((w.step s c).1, w.figures s c)

/-- The figures of calls to a fresh watcher. -/
def runFigures (calls : List NetworkCall) : List Figure :=
  (Stepwise.run w.figureStep {} calls).2

theorem runFigures_concat (calls : List NetworkCall) (c : NetworkCall) :
    w.runFigures (calls ++ [c]) = w.runFigures calls ++ w.figures (w.run calls).1 c := by
  have hsame : ∀ s c, (w.figureStep s c).1 = (w.step s c).1 := fun _ _ ↦ rfl
  have hstate : (Stepwise.run w.figureStep {} calls).1 = (w.run calls).1 :=
    Stepwise.run_fst_congr hsame {} calls
  rw [runFigures, Stepwise.run_concat, hstate]
  rfl

theorem get_resolveNat (d : Dialog) (p : Phase) : (w.resolveNat d).get p = d.get p := by
  unfold resolveNat
  split
  · split
    · rfl
    · split <;> cases p <;> rfl
  · rfl

variable {w} {calls : List NetworkCall} {c : NetworkCall} {k : DialogKey}

/-- **The figures of dispatching timely dialogs fit**, whatever was learned before. -/
theorem dispatchFigures_fit {ds : List Dialog} (h : ∀ d ∈ ds, d.Timely) (l : Learned) :
    ∀ f ∈ w.dispatchFigures l ds, f.fits = true := by
  induction ds generalizing l with
  | nil => exact List.forall_mem_nil _
  | cons d ds ih =>
    obtain ⟨hd, hds⟩ := List.forall_mem_cons.1 h
    have hresolved : (w.resolveNat d).Timely := fun p b hb ↦ hd p b (w.get_resolveNat d p ▸ hb)
    intro f hf
    rcases List.mem_append.1 hf with hf | hf
    · obtain ⟨u, hu, hf⟩ := List.mem_flatMap.1 hf
      have hexchange := Dispatcher.isExchange_of_mem_reported hu
      exact (hexchange.timely hresolved).exchangeFigures_fit f hf
    · exact ih hds _ f hf

/-- What a run of timely events hands over is timely. -/
theorem timely_of_handed (htimely : ∀ e, .consume e ∈ calls → e.Timely) {d : Dialog}
    (hd : d ∈ (w.storeStep (w.storeAfter calls) c).2) : d.Timely := by
  obtain ⟨k, rfl⟩ := exists_openShares_of_handed hd
  refine (Dialog.madeOf_ofShares _ _).timely fun x hx ↦ ?_
  exact htimely x.2 (mem_calls_of_mem_openShares hx)

/-- **The figures of a call fit exactly where the totals still do after it**, provided that they
did before. -/
theorem figures_fit_step (htimely : ∀ e, .consume e ∈ calls ++ [c] → e.Timely)
    (hfit : ∀ k, Share.TotalsFit (w.openShares k calls)) :
    (∀ f ∈ w.figures (w.run calls).1 c, f.fits = true) ↔
      ∀ k, Share.TotalsFit (w.openShares k (calls ++ [c])) := by
  have hdispatch : ∀ f ∈ w.dispatchFigures (w.run calls).1.learned
      (w.storeStep (w.storeAfter calls) c).2, f.fits = true :=
    dispatchFigures_fit (fun d hd ↦
      timely_of_handed (fun e he ↦ htimely e (List.mem_append_left _ he)) hd) _
  have hnothing : ∀ k, Slot.absorbed w.admitUdp k
      (Slot.ofShares w.settings.payloadLimit (w.openShares k calls)) c = [] →
        Share.TotalsFit (w.openShares k (calls ++ [c])) := fun k hk ↦ by
    rw [openShares_concat]
    exact Slot.totalsFit_gather (hfit k) hk
  cases c with
  | reap now => exact iff_of_true hdispatch fun k ↦ hnothing k rfl
  | consume e =>
    have he := htimely e (List.mem_append_right _ (List.mem_singleton_self _))
    have hsplit : (∀ f ∈ w.figures (w.run calls).1 (.consume e), f.fits = true) ↔
        ∀ f ∈ (w.storeAfter calls).figures w.settings w.admitUdp e, f.fits = true := by
      refine List.forall_mem_append.trans ⟨fun h ↦ h.1, fun h ↦ ⟨h, hdispatch⟩⟩
    rw [hsplit]
    cases hp : e.phase? w.admitUdp with
    | none =>
      refine iff_of_true ?_ fun k ↦ hnothing k (Slot.absorbed_consume_of_phase?_none hp)
      rw [DialogStore.figures, hp]
      exact List.forall_mem_nil _
    | some p =>
      have hfold : (w.storeAfter calls).figures w.settings w.admitUdp e =
          ((w.storeAfter calls).entries.find? (.ofEvent e)).elim []
            (·.dialog.foldFigures w.settings p e) := by
        rw [DialogStore.figures, hp]
        cases (w.storeAfter calls).entries.find? (.ofEvent e) <;> rfl
      have hown := Slot.foldFigures_fit_iff (w.account (.ofEvent e) calls).stored
        (fun x hx ↦ htimely x.2 (List.mem_append_left _ (mem_calls_of_mem_openShares hx)))
        (hfit (.ofEvent e)) he rfl hp
      rw [hfold, hown, ← openShares_concat]
      refine ⟨fun h k ↦ ?_, fun h ↦ h _⟩
      by_cases hk : DialogKey.ofEvent e = k
      · exact hk ▸ h
      · refine hnothing k ?_
        rw [Slot.absorbed_consume hp, decide_eq_false hk]
        rfl

/-- **The figures of a run of timely events fit if, and only if, the results of every phase of every
open dialog add up to something that fits, at every moment of the run.** The figures are those of
all calls, of events that are folded in as well as of records that are made, at the reapings in
between too. -/
theorem figures_fit_iff (w : NetworkWatcher) (calls : List NetworkCall)
    (htimely : ∀ e, .consume e ∈ calls → e.Timely) :
    (∀ f ∈ w.runFigures calls, f.fits = true) ↔
      ∀ earlier, earlier <+: calls → ∀ k, Share.TotalsFit (w.openShares k earlier) := by
  induction calls using List.reverseRecOn with
  | nil =>
    refine iff_of_true (List.forall_mem_nil _) fun earlier hearlier k ↦ ?_
    rw [List.prefix_nil.1 hearlier]
    exact Share.totalsFit_nil
  | append_singleton calls c ih =>
    have hih := ih fun e he ↦ htimely e (List.mem_append_left _ he)
    rw [runFigures_concat, List.forall_mem_append, hih]
    constructor
    · rintro ⟨hbefore, hstep⟩ earlier hearlier
      rcases List.prefix_concat_iff.1 hearlier with rfl | hearlier
      · exact (figures_fit_step htimely (hbefore calls List.prefix_rfl)).1 hstep
      · exact hbefore earlier hearlier
    · intro h
      have hbefore : ∀ earlier, earlier <+: calls → ∀ k, Share.TotalsFit (w.openShares k earlier) :=
        fun earlier hearlier ↦ h earlier (hearlier.trans (List.prefix_append _ _))
      refine ⟨hbefore, (figures_fit_step htimely (hbefore calls List.prefix_rfl)).2 ?_⟩
      exact h _ List.prefix_rfl

/-- A request in two pieces and its response, reported at the end. -/
theorem figures_fit_iff_pieces :
    let w : NetworkWatcher := .ofSettings {} .none
    let calls : List NetworkCall := [.consume (.sample "write" 1000),
      .consume (.sample "write" 2000), .consume (.sample "read" 5000), .reap Watcher.endOfTime]
    (∀ e, .consume e ∈ calls → e.Timely) ∧ (∀ f ∈ w.runFigures calls, f.fits = true) ∧
      ∀ earlier, earlier <+: calls → ∀ k, Share.TotalsFit (w.openShares k earlier) := by
  intro w calls
  have htimely : ∀ e, .consume e ∈ calls → e.Timely := by
    intro e he
    simp only [calls, List.mem_cons, List.not_mem_nil, NetworkCall.consume.injEq, reduceCtorEq,
      or_false] at he
    rcases he with rfl | rfl | rfl <;> decide
  have hfits : ∀ f ∈ w.runFigures calls, f.fits = true := by decide +kernel
  exact ⟨htimely, hfits, (figures_fit_iff w calls htimely).1 hfits⟩

/-- Each kind of figure but the age of an event can be too large: the time that is counted up to
the second piece of a request, although what is left of it is small; the sum of two results; the
time between a request whose time needs the sign bit and a response; and the total with a connect
that took as long as a word can tell. -/
theorem figure_overflow :
    let w : NetworkWatcher := .ofSettings { requestTimeout := some 100 } .none
    let pieces : List NetworkCall :=
      [.consume { Event.sample "write" 18446743983709551615 with latency := 50000000000 },
        .consume (.sample "write" 18446744028709551615)]
    let results : List NetworkCall :=
      [.consume { Event.sample "write" 1000 with result := 9223372036854775807 },
        .consume { Event.sample "write" 2000 with result := 1 }]
    let waiting : List NetworkCall :=
      [.consume (.sample "write" 9223372036854775808), .consume (.sample "read" 1000),
        .reap Watcher.endOfTime]
    let total : List NetworkCall :=
      [.consume { Event.sample "connect" 1000 with latency := 18446744073709551615 },
        .consume (.sample "write" 1000), .consume (.sample "read" 2000), .reap Watcher.endOfTime]
    ∀ calls ∈ [pieces, results, waiting, total], ¬ ∀ f ∈ w.runFigures calls, f.fits = true := by
  decide +kernel

end NetworkWatcher

/-! ### What a watched stream needs -/

namespace Watcher

variable {w : Watcher}

/-- The events on lines. -/
def eventsOn (lines : List (List UInt8)) : List Event :=
  lines.filterMap fun line ↦ (Utf8.text? line).bind event?

/-- As long as the figures of the events on some lines fit, reading the lines ends only at one that
is no text, and else does with the dialogs what the events do. -/
theorem feedAll_of_fits (lines : List (List UInt8)) (s : WatchState)
    (hfits : ∀ f ∈ (Stepwise.run w.network.figureStep s.network
      ((eventsOn lines).map .consume)).2, f.fits = true) :
    (w.feedAll s lines).2 = .error .text ∨
      ∃ after, (w.feedAll s lines).2 = .ok after ∧
        after.network = (Stepwise.run w.network.figureStep s.network
          ((eventsOn lines).map .consume)).1 := by
  induction lines generalizing s with
  | nil => exact .inr ⟨s, rfl, rfl⟩
  | cons line lines ih =>
    cases htext : Utf8.text? line with
    | none => exact .inl (by simp [feedAll, feed, htext])
    | some text =>
      cases hevent : event? text with
      | none =>
        have hevents : eventsOn (line :: lines) = eventsOn lines := by
          simp [eventsOn, htext, hevent]
        rw [hevents] at hfits ⊢
        simpa [feedAll, feed, htext, hevent] using ih s hfits
      | some e =>
        have hevents : eventsOn (line :: lines) = e :: eventsOn lines := by
          simp [eventsOn, htext, hevent]
        rw [hevents, List.map_cons, Stepwise.run_cons] at hfits ⊢
        obtain ⟨hstep, hrest⟩ := List.forall_mem_append.1 hfits
        have hfeed : w.feed s line = .ok (w.consume s e) := by
          simp only [feed, htext, hevent]
          exact if_pos (List.all_eq_true.2 hstep)
        have hstate : (w.consume s e).1.network = (w.network.figureStep s.network (.consume e)).1 :=
          rfl
        simpa [feedAll, hfeed, hstate] using ih (w.consume s e).1 hrest

/-- **A stream is not given up over a figure** where the figures of its events, and of the flush
after them, fit. -/
theorem run_ne_overflow (stream : List UInt8) (tables : UInt32 → Option SocketTable) (now : Nat)
    (hfits : ∀ f ∈ w.network.runFigures
      ((eventsOn (Text.lines stream)).map .consume ++ [.reap endOfTime]), f.fits = true) :
    (w.run stream tables now).2 ≠ .error .overflow := by
  rw [NetworkWatcher.runFigures, Stepwise.run_concat] at hfits
  obtain ⟨hevents, hflush⟩ := List.forall_mem_append.1 hfits
  unfold run
  rcases feedAll_of_fits (Text.lines stream) {} hevents with htext | ⟨after, hafter, hnetwork⟩
  · generalize w.feedAll {} (Text.lines stream) = fed at htext
    obtain ⟨records, outcome⟩ := fed
    obtain rfl : outcome = .error .text := htext
    simp
  · generalize w.feedAll {} (Text.lines stream) = fed at hafter
    obtain ⟨records, outcome⟩ := fed
    obtain rfl : outcome = .ok after := hafter
    have hfinish : (w.network.reapFigures after.network endOfTime).all (·.fits) = true := by
      rw [hnetwork]
      exact List.all_eq_true.2 hflush
    simp [finish, hfinish]

end Watcher

end SocketWatch
