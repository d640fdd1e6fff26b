import SocketWatch.Proofs.Dialog.Merging
import SocketWatch.Proofs.Dialog.Rounds
import SocketWatch.Proofs.Dialog.Window
import SocketWatch.Proofs.Network.Figures
/-!
# One exchange in any order of arrival

Threads race to the watcher, so the pieces of one exchange arrive in no particular order. Where
each piece of a request is in the window of each other piece, the order does not show in what the
exchange amounts to: **whatever the order of the requests, and of the responses after them, nothing
is handed over, a single dialog is open, and its sums and its numbers of events are those of the
pieces** (`NetworkWatcher.one_dialog_in_any_order`). The window that counts is that of the piece
that came first, whichever that was (`Round.Together.fits`), and a sum does not depend on the order.

That is so in numbers without bound. The figures of such a run fit in any order or in none, provided
that the events are timely: since nothing is handed over the totals only grow, so that they fit all
along if they fit at the end (`NetworkWatcher.figures_fit_iff_of_handed_nil`). Close to the end of
time the order does decide (`NetworkWatcher.order_decides_figures`).
-/

namespace SocketWatch

/-- Events that move data have a result that is not negative. -/
theorem Event.result_nonneg_of_phase? {e : Event} {admitUdp : Bool} {p : Phase}
    (h : e.phase? admitUdp = some p) (hp : p ≠ .connect) : 0 ≤ e.result.toInt := by
  unfold phase? at h
  split at h
  · cases h
  split at h
  · exact absurd (Option.some.inj h).symm hp
  split at h
  · cases h
  split at h
  · cases h
  · rename_i hdata
    simp only [Bool.or_eq_true, decide_eq_true_eq, not_or] at hdata
    exact Int.not_lt.1 hdata.2

/-! ### What does not depend on the order -/

namespace Burst

variable (limit : Nat) (es : List Event)

theorem elim_result_ofEvents? :
    (ofEvents? limit es).elim 0 (·.result) = (es.map (·.result.toInt)).sum := by
  cases es with
  | nil => rfl
  | cons e es => exact result_foldl_merge e es limit

theorem elim_size_ofEvents? :
    (ofEvents? limit es).elim 0 (·.size) = min maxEvents es.length := by
  cases es with
  | nil => rfl
  | cons e es =>
    show size _ = _
    rw [size, events_foldl_merge, List.length_take]

end Burst

namespace Round

/-- A round that the store keeps together in any order: every request is in the window of every
other. -/
structure Together (settings : NetworkSettings) (admitUdp : Bool) (k : DialogKey) (ρ : Round) :
    Prop where
  /-- There is a request. -/
  asked : ρ.queries ≠ []
  /-- The requests are of the key. -/
  query : ∀ q ∈ ρ.queries, DialogKey.ofEvent q = k ∧ q.phase? admitUdp = some .request
  /-- Whichever comes first, the others are in its window. -/
  window : ∀ q ∈ ρ.queries, ∀ q' ∈ ρ.queries, q.InWindow settings.requestTimeoutSecs q'
  /-- The responses are of the key. -/
  answer : ∀ a ∈ ρ.answers, DialogKey.ofEvent a = k ∧ a.phase? admitUdp = some .response

namespace Together

variable {settings : NetworkSettings} {admitUdp : Bool} {k : DialogKey} {ρ ρ' : Round}

/-- The order of the events is of no account. -/
theorem of_perm (h : ρ.Together settings admitUdp k) (hqueries : ρ'.queries.Perm ρ.queries)
    (hanswers : ρ'.answers.Perm ρ.answers) : ρ'.Together settings admitUdp k where
  asked hnil := h.asked (List.nil_perm.1 (hnil ▸ hqueries))
  query q hq := h.query q (hqueries.mem_iff.1 hq)
  window q hq q' hq' := h.window q (hqueries.mem_iff.1 hq) q' (hqueries.mem_iff.1 hq')
  answer a ha := h.answer a (hanswers.mem_iff.1 ha)

/-- **The window of the first request is enough**, and the first request is one of them. -/
theorem fits (h : ρ.Together settings admitUdp k) : ρ.Fits settings admitUdp k where
  asked := h.asked
  query := h.query
  timely q hq b hfirst := by
    have hin := h.window b.first (List.mem_of_mem_head? hfirst) q hq
    exact Bool.eq_false_iff.2 fun hlate ↦ ((b.isTimeout_iff q _).1 hlate).2 hin
  answer := h.answer

/-- The events of the round, one by one. -/
theorem exists_phase (h : ρ.Together settings admitUdp k) {e : Event}
    (he : .consume e ∈ ρ.calls) :
    DialogKey.ofEvent e = k ∧ ∃ p, p ≠ .connect ∧ e.phase? admitUdp = some p := by
  obtain ⟨e', hmem, heq⟩ := List.mem_map.1 he
  obtain rfl := NetworkCall.consume.inj heq
  rcases List.mem_append.1 hmem with hq | ha
  · obtain ⟨hkey, hphase⟩ := h.query e' hq
    exact ⟨hkey, .request, by decide, hphase⟩
  · obtain ⟨hkey, hphase⟩ := h.answer e' ha
    exact ⟨hkey, .response, by decide, hphase⟩

end Together

end Round

/-! ### Totals that grow -/

namespace Share

/-- Events that move data let a total grow. -/
theorem total_le_append {taken : List Share} (h : ∀ x ∈ taken, 0 ≤ x.2.result.toInt) (p : Phase)
    (shares : List Share) : total p shares ≤ total p (shares ++ taken) := by
  induction taken using List.reverseRecOn with
  | nil => simp
  | append_singleton taken x ih =>
    have hx : 0 ≤ x.2.result.toInt := h x (by simp)
    have hle := ih fun y hy ↦ h y (List.mem_append_left _ hy)
    rw [← List.append_assoc, show x = (x.1, x.2) from rfl, total_concat]
    split <;> omega

/-- Totals that fit did so before they grew. -/
theorem TotalsFit.of_append {shares taken : List Share} (h : TotalsFit (shares ++ taken))
    (hnonneg : ∀ x ∈ shares ++ taken, 0 ≤ x.2.result.toInt) : TotalsFit shares := by
  intro p
  obtain ⟨-, hlt⟩ := Word.fitsSigned_iff.1 (h p)
  have hzero : total p [] ≤ total p shares :=
    total_le_append (fun x hx ↦ hnonneg x (List.mem_append_left _ hx)) p []
  have hle : total p shares ≤ total p (shares ++ taken) :=
    total_le_append (fun x hx ↦ hnonneg x (List.mem_append_right _ hx)) p shares
  rw [show total p [] = 0 from rfl] at hzero
  exact Word.fitsSigned_iff.2 ⟨by omega, by omega⟩

end Share

namespace NetworkWatcher

variable {w : NetworkWatcher} {k : DialogKey} {ρ : Round} {calls : List NetworkCall}
  {c : NetworkCall}

/-! ### One dialog -/

/-- **Such a round stays open as one dialog.** -/
theorem open_round (h : ρ.Together w.settings w.admitUdp k) :
    w.handed ρ.calls = [] ∧
      (w.storeAfter ρ.calls).entries.entries = [(k, ρ.openDialog w.settings.payloadLimit)] := by
  have hkey : ∀ e, .consume e ∈ ρ.calls → DialogKey.ofEvent e = k := fun e he ↦
    (h.exists_phase he).1
  have hready : Slot.Ready none := fun _ ho ↦ by cases ho
  have hrun := Slot.run_round h.fits hready
  refine ⟨?_, Table.entries_eq_singleton ?_ fun k' hne ↦ ?_⟩
  · rw [w.handed_eq_slot_run hkey, hrun]
    rfl
  · rw [(w.slot_run k ρ.calls).1, hrun]
  · rw [(w.slot_run k' ρ.calls).1, Slot.run_of_ne fun e he heq ↦ hne (heq.symm.trans (hkey e he))]

/-! ### Figures -/

/-- As long as nothing is handed over, what is open only grows. -/
theorem openShares_concat_of_handed_nil (k : DialogKey) (h : w.handed (calls ++ [c]) = []) :
    ∃ taken, w.openShares k (calls ++ [c]) = w.openShares k calls ++ taken := by
  have hfinished : w.finishedShares k (calls ++ [c]) = [] := by
    have hhanded := (w.account k (calls ++ [c])).handed
    rw [h] at hhanded
    exact List.map_eq_nil_iff.1 hhanded.symm
  rw [finishedShares, Stepwise.run_concat] at hfinished
  have hgather : (Slot.gather w.settings w.admitUdp k (w.openShares k calls) c).2 = [] :=
    (List.append_eq_nil_iff.1 hfinished).2
  rw [openShares_concat]
  simp only [Slot.gather] at hgather ⊢
  split at hgather
  · rename_i hstep
    exact ⟨_, congrArg Prod.fst (if_pos hstep)⟩
  · cases hgather

/-- **The figures of a run that hands nothing over fit if its totals do at the end**, for timely
events that move data: the totals only grow. -/
theorem figures_fit_iff_of_handed_nil (htimely : ∀ e, .consume e ∈ calls → e.Timely)
    (hnonneg : ∀ e, .consume e ∈ calls → 0 ≤ e.result.toInt) (hnone : w.handed calls = []) :
    (∀ f ∈ w.runFigures calls, f.fits = true) ↔
      ∀ k, Share.TotalsFit (w.openShares k calls) := by
  induction calls using List.reverseRecOn with
  | nil => exact iff_of_true (List.forall_mem_nil _) fun k ↦ Share.totalsFit_nil
  | append_singleton calls c ih =>
    have hhanded : w.handed calls = [] := by
      rw [handed, Stepwise.run_concat] at hnone
      exact (List.append_eq_nil_iff.1 hnone).1
    have hgrow : (∀ k, Share.TotalsFit (w.openShares k (calls ++ [c]))) →
        ∀ k, Share.TotalsFit (w.openShares k calls) := fun h k ↦ by
      obtain ⟨taken, htaken⟩ := openShares_concat_of_handed_nil k hnone
      refine Share.TotalsFit.of_append (htaken ▸ h k) fun x hx ↦ hnonneg x.2 ?_
      rw [← htaken] at hx
      exact mem_calls_of_mem_openShares hx
    rw [runFigures_concat, List.forall_mem_append,
      ih (fun e he ↦ htimely e (List.mem_append_left _ he))
        (fun e he ↦ hnonneg e (List.mem_append_left _ he)) hhanded]
    constructor
    · rintro ⟨hbefore, hstep⟩
      exact (figures_fit_step htimely hbefore).1 hstep
    · intro h
      exact ⟨hgrow h, (figures_fit_step htimely (hgrow h)).2 h⟩

/-- The totals of such a round are the sums of its results. -/
theorem totalsFit_round_iff (h : ρ.Together w.settings w.admitUdp k) :
    (∀ k', Share.TotalsFit (w.openShares k' ρ.calls)) ↔
      Word.fitsSigned 64 (ρ.queries.map (·.result.toInt)).sum = true ∧
        Word.fitsSigned 64 (ρ.answers.map (·.result.toInt)).sum = true := by
  obtain ⟨-, hentries⟩ := open_round h
  have hfind : (w.storeAfter ρ.calls).entries.find? k =
      some (ρ.openDialog w.settings.payloadLimit) := by
    rw [Table.find?_eq_some_iff, hentries]
    exact List.mem_singleton_self _
  have hbytes : ∀ p, Share.total p (w.openShares k ρ.calls) =
      (ρ.dialog w.settings.payloadLimit).bytes p := fun p ↦ by
    rw [Round.dialog, eq_ofShares_of_find? hfind, Dialog.bytes_ofShares]
  have hqueries : (ρ.dialog w.settings.payloadLimit).bytes .request = _ :=
    Burst.elim_result_ofEvents? w.settings.payloadLimit ρ.queries
  have hanswers : (ρ.dialog w.settings.payloadLimit).bytes .response = _ :=
    Burst.elim_result_ofEvents? w.settings.payloadLimit ρ.answers
  constructor
  · intro hfit
    rw [← hqueries, ← hanswers, ← hbytes, ← hbytes]
    exact ⟨hfit k .request, hfit k .response⟩
  · rintro ⟨hfitq, hfita⟩ k' p
    by_cases hk : k' = k
    · subst hk
      rw [hbytes]
      cases p with
      | connect => rfl
      | request => rwa [hqueries]
      | response => rwa [hanswers]
    · have hstored := (w.account k' ρ.calls).stored
      have hnone : (w.storeAfter ρ.calls).entries.find? k' = none := by
        rw [(w.slot_run k' ρ.calls).1, Slot.run_of_ne fun e he heq ↦
          hk (heq.symm.trans (h.exists_phase he).1)]
      rw [hnone] at hstored
      rw [hstored.eq_nil]
      exact Share.totalsFit_nil p

/-- **The order of arrival does not matter.** Requests of one key of which each is in the window of
each other, and then responses of that key, in whatever order the ones and the others come: nothing
is handed over, and one dialog is open, which has the sums of the results and keeps as many events
of each phase as there is room for. If the events are timely, the figures of the run fit exactly if
both sums do, again whatever the order. -/
theorem one_dialog_in_any_order (w : NetworkWatcher) {k : DialogKey} {ρ ρ' : Round}
    (h : ρ.Together w.settings w.admitUdp k) (hqueries : ρ'.queries.Perm ρ.queries)
    (hanswers : ρ'.answers.Perm ρ.answers) :
    let requested := (ρ.queries.map (·.result.toInt)).sum
    let responded := (ρ.answers.map (·.result.toInt)).sum
    (w.run ρ'.calls).2 = [] ∧ w.handed ρ'.calls = [] ∧
      (∃ o, (w.storeAfter ρ'.calls).entries.entries = [(k, o)] ∧
        o.dialog.requestSize = requested ∧ o.dialog.responseSize = responded ∧
        o.dialog.request.elim 0 (·.size) = min Burst.maxEvents ρ.queries.length ∧
        o.dialog.response.elim 0 (·.size) = min Burst.maxEvents ρ.answers.length) ∧
      ((∀ e ∈ ρ.queries ++ ρ.answers, e.Timely) →
        ((∀ f ∈ w.runFigures ρ'.calls, f.fits = true) ↔
          Word.fitsSigned 64 requested = true ∧ Word.fitsSigned 64 responded = true)) := by
  intro requested responded
  have h' := h.of_perm hqueries hanswers
  obtain ⟨hhanded, hentries⟩ := open_round h'
  have hrequested : (ρ'.queries.map (·.result.toInt)).sum = requested :=
    (hqueries.map _).sum_eq
  have hresponded : (ρ'.answers.map (·.result.toInt)).sum = responded :=
    (hanswers.map _).sum_eq
  refine ⟨?_, hhanded, ⟨_, hentries, ?_, ?_, ?_, ?_⟩, fun htimely ↦ ?_⟩
  · rw [run_eq, hhanded]
    rfl
  · rw [← hrequested]
    exact Burst.elim_result_ofEvents? w.settings.payloadLimit ρ'.queries
  · rw [← hresponded]
    exact Burst.elim_result_ofEvents? w.settings.payloadLimit ρ'.answers
  · rw [← hqueries.length_eq]
    exact Burst.elim_size_ofEvents? w.settings.payloadLimit ρ'.queries
  · rw [← hanswers.length_eq]
    exact Burst.elim_size_ofEvents? w.settings.payloadLimit ρ'.answers
  · rw [← hrequested, ← hresponded, ← totalsFit_round_iff h']
    refine figures_fit_iff_of_handed_nil (fun e he ↦ ?_) (fun e he ↦ ?_) hhanded
    · obtain ⟨e', hmem, heq⟩ := List.mem_map.1 he
      obtain rfl := NetworkCall.consume.inj heq
      exact htimely e' ((hqueries.append hanswers).mem_iff.1 hmem)
    · obtain ⟨-, p, hp, hphase⟩ := h'.exists_phase he
      exact e.result_nonneg_of_phase? hphase hp

/-- A request in three pieces, of which the last one comes first, and its response. -/
theorem one_dialog_in_any_order_pieces :
    let w : NetworkWatcher := .ofSettings {} .none
    let ρ : Round := ⟨[.sample "write" 1000, .sample "write" 2000, .sample "write" 3000],
      [.sample "read" 5000]⟩
    let ρ' : Round := ⟨[.sample "write" 3000, .sample "write" 1000, .sample "write" 2000],
      [.sample "read" 5000]⟩
    ρ.Together w.settings w.admitUdp (.tcp 7 5) ∧ ρ'.queries.Perm ρ.queries ∧
      (w.run ρ'.calls).2 = [] ∧ w.handed ρ'.calls = [] ∧
      (∃ o, (w.storeAfter ρ'.calls).entries.entries = [(.tcp 7 5, o)] ∧
        o.dialog.requestSize = 12 ∧ o.dialog.responseSize = 4 ∧
        o.dialog.request.elim 0 (·.size) = 3 ∧ o.dialog.response.elim 0 (·.size) = 1) ∧
      ∀ f ∈ w.runFigures ρ'.calls, f.fits = true := by
  intro w ρ ρ'
  have htogether : ρ.Together w.settings w.admitUdp (.tcp 7 5) :=
    ⟨by decide, by decide, by decide, by decide⟩
  have hqueries : ρ'.queries.Perm ρ.queries := by decide
  obtain ⟨hrecords, hhanded, hopen, hfits⟩ :=
    one_dialog_in_any_order w htogether hqueries (List.Perm.refl _)
  exact ⟨htogether, hqueries, hrecords, hhanded, hopen,
    (hfits (by decide)).2 ⟨by decide, by decide⟩⟩

/-- Two requests close to the end of time, each in the window of the other: in one order the time
that is counted is too large for its word, in the other it is not. -/
theorem order_decides_figures :
    let w : NetworkWatcher := .ofSettings { requestTimeout := some 100 } .none
    let slow : Event := { Event.sample "write" 18446743993709551615 with latency := 40000000000 }
    let quick : Event := .sample "write" 18446744043709551615
    Round.Together w.settings w.admitUdp (.tcp 7 5) ⟨[slow, quick], []⟩ ∧
      (¬ ∀ f ∈ w.runFigures (Round.calls ⟨[slow, quick], []⟩), f.fits = true) ∧
      ∀ f ∈ w.runFigures (Round.calls ⟨[quick, slow], []⟩), f.fits = true :=
  ⟨⟨by decide, by decide, by decide, by decide⟩, by decide +kernel, by decide +kernel⟩

end NetworkWatcher

end SocketWatch
