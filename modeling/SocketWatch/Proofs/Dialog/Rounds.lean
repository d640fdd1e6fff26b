import Mathlib.Data.List.Induction
import SocketWatch.Proofs.Dialog.Built
import SocketWatch.Proofs.Dialog.Conservation
/-!
# Rounds

On one key requests and responses alternate: some requests, then some responses, then requests
again. A request that follows a response begins a new dialog, so the store cuts such a conversation
into **rounds**, and of each round it hands over one dialog, which holds the requests and the
responses of that round and of no other (`Slot.run_rounds`). A round that nobody answered cannot be
told from the next one, so this is so only where all rounds but the last have a response.

As long as no burst is longer than it may be, the dialog keeps all events of its round
(`Burst.ofEvents?_spec`).
-/

namespace SocketWatch

/-! ### The burst of a list of events -/

namespace Burst

/-- The burst of events that follow each other; none of no events. -/
def ofEvents? (limit : Nat) : List Event → Option Burst
  | [] => none
  | e :: es => some (es.foldl merge (ofEvent e limit))

theorem ofEvents?_concat (limit : Nat) (es : List Event) (e : Event) :
    ofEvents? limit (es ++ [e]) =
      some ((ofEvents? limit es).elim (ofEvent e limit) (·.merge e)) := by
  cases es with
  | nil => rfl
  | cons e' es => simp only [List.cons_append, ofEvents?, List.foldl_append, List.foldl_cons,
      List.foldl_nil, Option.elim_some]

/-- However many events are merged, the bytes of the first one come first. -/
theorem prefix_data_merge {b : Burst} (h : b.first.data.take b.limit <+: b.data) (e : Event) :
    b.first.data.take b.limit <+: (b.merge e).data := by
  have hstart : b.first.data.take b.limit <+:
      (b.merged.getD (start b.first b.limit)).data := by
    cases hm : b.merged with
    | none => exact List.prefix_rfl
    | some m => simpa [data, hm] using h
  exact hstart.trans (List.prefix_append _ _)

/-- What a burst of events keeps of the first one: itself, the limit, and the beginning of its
bytes. -/
theorem ofEvents?_spec {limit : Nat} {es : List Event} {b : Burst}
    (h : ofEvents? limit es = some b) :
    es.head? = some b.first ∧ b.limit = limit ∧ b.first.data.take limit <+: b.data ∧
      (es.length ≤ maxEvents → b.events = es) := by
  induction es using List.reverseRecOn generalizing b with
  | nil => cases h
  | append_singleton es e ih =>
    rw [ofEvents?_concat] at h
    cases hold : ofEvents? limit es with
    | none =>
      have hnil : es = [] := by
        cases es with
        | nil => rfl
        | cons => cases hold
      rw [hold] at h
      obtain rfl := Option.some.inj h
      subst hnil
      exact ⟨rfl, rfl, List.take_prefix limit e.data, fun _ ↦ rfl⟩
    | some b' =>
      rw [hold] at h
      obtain rfl := Option.some.inj h
      obtain ⟨hhead, hlimit, hdata, hevents⟩ := ih hold
      refine ⟨?_, hlimit, ?_, fun hlength ↦ ?_⟩
      · rw [List.head?_append, hhead]
        rfl
      · rw [← hlimit] at hdata ⊢
        exact prefix_data_merge hdata e
      · rw [List.length_append, List.length_singleton] at hlength
        have hes := hevents (by omega)
        simp only [Option.elim_some, events_merge, hes]
        rw [if_pos (by omega)]

end Burst

/-! ### What a slot does with a round -/

/-- Requests on one key, and the responses that follow them before the next request. -/
structure Round where
  /-- The requests. -/
  queries : List Event
  /-- The responses. -/
  answers : List Event
deriving DecidableEq, Inhabited

namespace Round

variable (ρ : Round)

/-- The events of a round. -/
def calls : List NetworkCall := (ρ.queries ++ ρ.answers).map .consume

/-- What is open after a round. -/
def openDialog (limit : Nat) : OpenDialog where
  dialog.request := Burst.ofEvents? limit ρ.queries
  dialog.response := Burst.ofEvents? limit ρ.answers
  limit := limit

/-- The dialog of a round. -/
def dialog (limit : Nat) : Dialog := (ρ.openDialog limit).dialog

/-- One more request. -/
theorem openDialog_merge_request (queries : List Event) (limit : Nat) (q : Event) :
    (openDialog ⟨queries, []⟩ limit).merge .request q = openDialog ⟨queries ++ [q], []⟩ limit := by
  simp only [openDialog, OpenDialog.merge, Dialog.merge, Dialog.get, Burst.ofEvents?_concat]
  cases Burst.ofEvents? limit queries <;> rfl

/-- One more response. -/
theorem openDialog_merge_response (queries answers : List Event) (limit : Nat) (a : Event) :
    (openDialog ⟨queries, answers⟩ limit).merge .response a =
      openDialog ⟨queries, answers ++ [a]⟩ limit := by
  simp only [openDialog, OpenDialog.merge, Dialog.merge, Dialog.get, Burst.ofEvents?_concat]
  cases Burst.ofEvents? limit answers <;> rfl

theorem has_openDialog (limit : Nat) :
    (ρ.openDialog limit).dialog.has .request = !ρ.queries.isEmpty ∧
      (ρ.openDialog limit).dialog.has .response = !ρ.answers.isEmpty := by
  obtain ⟨queries, answers⟩ := ρ
  refine ⟨?_, ?_⟩
  · cases queries <;> rfl
  · cases answers <;> rfl

/-- A round of a key that the store can keep together. -/
structure Fits (settings : NetworkSettings) (admitUdp : Bool) (k : DialogKey) : Prop where
  /-- There is a request. -/
  asked : ρ.queries ≠ []
  /-- The requests are of the key. -/
  query : ∀ q ∈ ρ.queries, DialogKey.ofEvent q = k ∧ q.phase? admitUdp = some .request
  /-- They come no later than the first one allows. -/
  timely : ∀ q ∈ ρ.queries, ∀ b : Burst, ρ.queries.head? = some b.first →
    b.isTimeout q settings.requestTimeoutSecs = false
  /-- The responses are of the key. -/
  answer : ∀ a ∈ ρ.answers, DialogKey.ofEvent a = k ∧ a.phase? admitUdp = some .response

end Round

namespace Slot

variable {settings : NetworkSettings} {admitUdp : Bool} {k : DialogKey} {slot : Slot}
  {ρ : Round}

/-- A slot in which a request begins a new dialog: nothing is open, or something that was
answered. -/
def Ready (slot : Slot) : Prop := ∀ o, slot = some o → o.dialog.has .response = true

theorem take_of_ready (hslot : slot.Ready) (q : Event) :
    take settings slot .request q =
      (some (.ofEvent .request q settings.payloadLimit), slot.toList.map (·.dialog)) := by
  cases slot with
  | none => rfl
  | some o =>
    have hout : isSuperseded settings o.dialog .request q = true := by
      simp [isSuperseded, DialogStore.supersededByRequest, hslot o rfl]
    simp only [take]
    rw [if_pos hout]
    rfl

theorem take_of_joined {o : OpenDialog} {p : Phase} {e : Event}
    (hin : isSuperseded settings o.dialog p e = false)
    (hreq : p = .response → o.dialog.has .request = true) :
    take settings (some o) p e = (some (o.merge p e), []) := by
  have hkept : ¬(p = .response ∧ o.dialog.has .request = false) := fun ⟨hp, hno⟩ ↦ by
    rw [hreq hp] at hno
    cases hno
  simp only [take]
  rw [if_neg (by simp [hin]), if_neg hkept]

/-- **Requests that follow each other make one dialog**, and the first of them ends what was
open. -/
theorem run_queries (hρ : ρ.Fits settings admitUdp k) (hslot : slot.Ready) {queries : List Event}
    (hqueries : queries <+: ρ.queries) (hne : queries ≠ []) :
    Stepwise.run (step settings admitUdp k) slot (queries.map .consume) =
      (some (Round.openDialog ⟨queries, []⟩ settings.payloadLimit),
        slot.toList.map (·.dialog)) := by
  induction queries using List.reverseRecOn with
  | nil => exact absurd rfl hne
  | append_singleton queries q ih =>
    have hmem : q ∈ ρ.queries := hqueries.subset (by simp)
    obtain ⟨hkey, hphase⟩ := hρ.query q hmem
    rw [List.map_append, List.map_singleton, Stepwise.run_concat]
    cases queries with
    | nil =>
      rw [List.map_nil, Stepwise.run_nil, step_consume hkey hphase, take_of_ready hslot]
      rfl
    | cons first rest =>
      have hprefix : first :: rest <+: ρ.queries := (List.prefix_append _ _).trans hqueries
      have hhead : ρ.queries.head? = some first := by
        obtain ⟨tail, htail⟩ := hprefix
        rw [← htail]
        rfl
      -- the dialog so far has no response, and its requests began with the first one
      have hin : isSuperseded settings
          (Round.openDialog ⟨first :: rest, []⟩ settings.payloadLimit).dialog .request q =
            false := by
        obtain ⟨b, hb⟩ : ∃ b, Burst.ofEvents? settings.payloadLimit (first :: rest) = some b :=
          ⟨_, rfl⟩
        have hfirst := (Burst.ofEvents?_spec hb).1
        have hlate := hρ.timely q hmem b (hhead.trans hfirst)
        show DialogStore.supersededByRequest
          { request := Burst.ofEvents? settings.payloadLimit (first :: rest) } q _ = false
        rw [hb]
        simpa [DialogStore.supersededByRequest, Dialog.has, Dialog.get] using hlate
      rw [ih hprefix (List.cons_ne_nil _ _), step_consume hkey hphase,
        take_of_joined hin (fun h ↦ by cases h), Round.openDialog_merge_request, List.append_nil]

/-- **Responses that follow join the dialog.** -/
theorem run_answers (hρ : ρ.Fits settings admitUdp k) (limit : Nat) {answers : List Event}
    (hanswers : ∀ a ∈ answers, a ∈ ρ.answers) :
    Stepwise.run (step settings admitUdp k) (some (Round.openDialog ⟨ρ.queries, []⟩ limit))
      (answers.map .consume) = (some (Round.openDialog ⟨ρ.queries, answers⟩ limit), []) := by
  induction answers using List.reverseRecOn with
  | nil => rfl
  | append_singleton answers a ih =>
    obtain ⟨hkey, hphase⟩ := hρ.answer a (hanswers a (by simp))
    have hreq : (Round.openDialog ⟨ρ.queries, answers⟩ limit).dialog.has .request = true := by
      rw [(Round.has_openDialog _ limit).1]
      simpa using hρ.asked
    rw [List.map_append, List.map_singleton, Stepwise.run_concat,
      ih fun a ha ↦ hanswers a (List.mem_append_left _ ha), step_consume hkey hphase,
      take_of_joined rfl fun _ ↦ hreq, Round.openDialog_merge_response, List.append_nil]

/-- A round makes one dialog, and ends what was open. -/
theorem run_round (hρ : ρ.Fits settings admitUdp k) (hslot : slot.Ready) :
    Stepwise.run (step settings admitUdp k) slot ρ.calls =
      (some (ρ.openDialog settings.payloadLimit), slot.toList.map (·.dialog)) := by
  rw [Round.calls, List.map_append, Stepwise.run_append,
    run_queries hρ hslot List.prefix_rfl hρ.asked, run_answers hρ _ fun _ ha ↦ ha, List.append_nil]

/-- **Every round makes one dialog.** All of them are handed over, but for the last, which stays
open. -/
theorem run_rounds {rounds : List Round} (hfits : ∀ ρ ∈ rounds, ρ.Fits settings admitUdp k)
    (hanswered : ∀ ρ ∈ rounds.dropLast, ρ.answers ≠ []) (hslot : slot.Ready) :
    let after := Stepwise.run (step settings admitUdp k) slot (rounds.flatMap (·.calls))
    after.2 ++ after.1.toList.map (·.dialog) =
      slot.toList.map (·.dialog) ++ rounds.map (·.dialog settings.payloadLimit) := by
  induction rounds generalizing slot with
  | nil => simp
  | cons ρ rounds ih =>
    have hrest := fun ρ' hρ' ↦ hfits ρ' (List.mem_cons_of_mem _ hρ')
    rw [List.flatMap_cons, Stepwise.run_append, run_round (hfits ρ List.mem_cons_self) hslot]
    cases rounds with
    | nil => simp [Round.dialog]
    | cons ρ' rounds =>
      have hready : Ready (some (ρ.openDialog settings.payloadLimit)) := fun o ho ↦ by
        rw [← Option.some.inj ho, (Round.has_openDialog ρ _).2]
        simpa using hanswered ρ (by simp)
      have hnext := ih hrest (fun ρ'' h ↦ hanswered ρ'' (by
        rw [List.dropLast_cons_cons]
        exact List.mem_cons_of_mem _ h)) hready
      simp only at hnext ⊢
      rw [List.append_assoc, hnext]
      rfl

/-- A reaping that leaves nothing open hands over what was. -/
theorem run_rounds_reap {rounds : List Round} (hfits : ∀ ρ ∈ rounds, ρ.Fits settings admitUdp k)
    (hanswered : ∀ ρ ∈ rounds.dropLast, ρ.answers ≠ []) {now : Nat}
    (hdone : (Stepwise.run (step settings admitUdp k) none
      (rounds.flatMap (·.calls) ++ [.reap now])).1 = none) :
    (Stepwise.run (step settings admitUdp k) none (rounds.flatMap (·.calls) ++ [.reap now])).2 =
      rounds.map (·.dialog settings.payloadLimit) := by
  have hready : Ready none := fun _ h ↦ by cases h
  have hall := run_rounds hfits hanswered hready
  rw [Stepwise.run_concat] at hdone ⊢
  simp only [Option.toList_none, List.map_nil, List.nil_append] at hall
  rw [← hall]
  rcases release_cases (DialogStore.isIdle settings now)
    (Stepwise.run (step settings admitUdp k) none (rounds.flatMap (·.calls))).1
    with h | ⟨o, ho, -, h⟩
  · have hempty : (Stepwise.run (step settings admitUdp k) none
        (rounds.flatMap (·.calls))).1 = none := by
      rw [show step settings admitUdp k _ (.reap now) = _ from h] at hdone
      exact hdone
    rw [show step settings admitUdp k _ (.reap now) = _ from h, hempty]
    rfl
  · rw [show step settings admitUdp k _ (.reap now) = _ from h, ho]
    rfl

/-- Under any other key nothing happens. -/
theorem run_of_ne {calls : List NetworkCall}
    (h : ∀ e, .consume e ∈ calls → DialogKey.ofEvent e ≠ k) :
    Stepwise.run (step settings admitUdp k) none calls = (none, []) := by
  induction calls with
  | nil => rfl
  | cons c calls ih =>
    have hstep : step settings admitUdp k none c = (none, []) := by
      cases c with
      | consume e => exact step_consume_of_ne (h e List.mem_cons_self)
      | reap now => rfl
    rw [Stepwise.run_cons, hstep, ih fun e he ↦ h e (List.mem_cons_of_mem _ he)]
    rfl

end Slot

namespace NetworkWatcher

variable (w : NetworkWatcher) {k : DialogKey}

/-- Where all events are of one key, all that is handed over is. -/
theorem handed_eq_slot_run {calls : List NetworkCall}
    (h : ∀ e, .consume e ∈ calls → DialogKey.ofEvent e = k) :
    w.handed calls = (Stepwise.run (Slot.step w.settings w.admitUdp k) none calls).2 := by
  rw [← (w.slot_run k calls).2, eq_comm, List.filter_eq_self]
  intro d hd
  obtain ⟨k', hk'⟩ := w.exists_key_of_mem_handed calls d hd
  by_cases heq : k' = k
  · rw [← heq, hk']
    exact decide_eq_true rfl
  · have hrun := (w.slot_run k' calls).2
    rw [Slot.run_of_ne fun e he hne ↦ heq (hne.symm.trans (h e he))] at hrun
    have hmem : d ∈ (w.handed calls).filter (·.key? = some k') :=
      List.mem_filter.2 ⟨hd, decide_eq_true hk'⟩
    rw [hrun] at hmem
    exact absurd hmem List.not_mem_nil

/-- **A conversation in rounds is handed over round by round.** -/
theorem handed_rounds {rounds : List Round} (hfits : ∀ ρ ∈ rounds, ρ.Fits w.settings w.admitUdp k)
    (hanswered : ∀ ρ ∈ rounds.dropLast, ρ.answers ≠ []) {now : Nat}
    (hdone : (w.storeAfter (rounds.flatMap (·.calls) ++ [.reap now])).entries.find? k = none) :
    w.handed (rounds.flatMap (·.calls) ++ [.reap now]) =
      rounds.map (·.dialog w.settings.payloadLimit) := by
  rw [w.handed_eq_slot_run (k := k) fun e he ↦ ?_]
  · refine Slot.run_rounds_reap hfits hanswered ?_
    rw [← (w.slot_run k _).1]
    exact hdone
  · rcases List.mem_append.1 he with he | he
    · obtain ⟨ρ, hρ, he⟩ := List.mem_flatMap.1 he
      obtain ⟨e', he', heq⟩ := List.mem_map.1 he
      obtain rfl : e' = e := NetworkCall.consume.inj heq
      rcases List.mem_append.1 he' with h | h
      · exact ((hfits ρ hρ).query e' h).1
      · exact ((hfits ρ hρ).answer e' h).1
    · rw [List.mem_singleton] at he
      cases he

end NetworkWatcher

end SocketWatch
