import SocketWatch.Dialog.Report
import SocketWatch.Proofs.Dialog.History
import SocketWatch.Proofs.Fields
/-!
# How the time of an exchange adds up

A record splits the time of an exchange into four: connecting, sending the request, waiting, and
receiving the response. Each is computed by itself, from other times and in other arithmetic, and so
is the total. That the total is the sum of the four (`Dialog.total_adds_up`) comes from what a burst
keeps: the time that it counts **spans** from the start of its first event to the end of its last
one (`Burst.Spans`), however many events lie in between. What is waited for lies between two spans,
and everything inside cancels.

A burst spans its time as long as no event ended before the first one began (`Event.Opens`). From
an event that did the burst counts no time, but it counts from there on, so what it counts is then
no longer the time of its span.
-/

namespace SocketWatch

/-- An event that other events follow: it began at time zero or later, and none of the others ended
before that. -/
structure Event.Opens (first : Event) (later : List Event) : Prop where
  /-- The first event did not take longer than the time there was. -/
  begun : first.latency ≤ first.timestamp
  /-- The others ended after it began. -/
  later : ∀ e ∈ later, first.startTime ≤ e.timestamp.toNat

instance (first : Event) (later : List Event) : Decidable (first.Opens later) :=
  decidable_of_iff
    (first.latency ≤ first.timestamp ∧ ∀ e ∈ later, first.startTime ≤ e.timestamp.toNat)
    ⟨fun h ↦ ⟨h.1, h.2⟩, fun h ↦ ⟨h.begun, h.later⟩⟩

/-! ### The time of a burst -/

namespace Burst

variable {b : Burst} {e : Event} {limit : Nat}

/-- The time that a burst counts is that from the start of its first event to the end of its last
one. -/
def Spans (b : Burst) : Prop := b.first.startTime + b.duration = b.lastTimestamp

theorem duration_merge (b : Burst) (e : Event) :
    (b.merge e).duration = e.timestamp.toNat + b.duration - b.lastTimestamp := by
  cases h : b.merged <;> simp [merge, duration, lastTimestamp, Merged.add, start, h]

theorem spans_ofEvent (he : e.latency ≤ e.timestamp) (limit : Nat) : (ofEvent e limit).Spans := by
  have hle := UInt64.le_iff_toNat_le.1 he
  show e.timestamp.toNat - e.latency.toNat + e.latency.toNat = e.timestamp.toNat
  exact Nat.sub_add_cancel hle

/-- **One more event stretches the span** to its own end. What the burst has counted so far
cancels. -/
theorem Spans.merge (h : b.Spans) (he : b.first.startTime ≤ e.timestamp.toNat) :
    (b.merge e).Spans := by
  unfold Spans at h ⊢
  rw [first_merge, duration_merge, lastTimestamp_merge, ← h]
  omega

theorem Spans.foldl_merge (h : b.Spans) {later : List Event}
    (hlater : ∀ e ∈ later, b.first.startTime ≤ e.timestamp.toNat) :
    (later.foldl Burst.merge b).Spans := by
  induction later generalizing b with
  | nil => exact h
  | cons e later ih =>
    obtain ⟨he, hrest⟩ := List.forall_mem_cons.1 hlater
    exact ih (h.merge he) hrest

/-- **A burst spans its time** where its first event opens it. -/
theorem spans_of_opens {first : Event} {later : List Event} (hopens : first.Opens later)
    (h : ofEvents? limit (first :: later) = some b) : b.Spans := by
  obtain rfl := Option.some.inj h
  exact (spans_ofEvent hopens.begun limit).foldl_merge hopens.later

/-- A burst ended when its last event did. -/
theorem lastTimestamp_ofEvents? {es : List Event} {last : Event}
    (h : ofEvents? limit es = some b) (hlast : es.getLast? = some last) :
    b.lastTimestamp = last.timestamp.toNat := by
  obtain ⟨es, rfl⟩ := List.getLast?_eq_some_iff.1 hlast
  rw [ofEvents?_concat] at h
  obtain rfl := Option.some.inj h
  cases ofEvents? limit es <;> rfl

end Burst

/-! ### The gauges of a record -/

namespace Record

variable (x : Record) {name : String} {value : Int} {values : List (String × Int)}

theorem gauge?_set (other : String) :
    (x.set name value).gauge? other = if name = other then some value else x.gauge? other :=
  x.gauges.find?_insert name other value

theorem gauge?_setAll_of_notMem (h : name ∉ values.map (·.1)) :
    (x.setAll values).gauge? name = x.gauge? name := by
  induction values generalizing x with
  | nil => rfl
  | cons v values ih =>
    rw [List.map_cons, List.mem_cons, not_or] at h
    calc (x.setAll (v :: values)).gauge? name
        = (x.set v.1 v.2).gauge? name := ih (x.set v.1 v.2) h.2
      _ = x.gauge? name := by rw [gauge?_set, if_neg (Ne.symm h.1)]

/-- Gauges of different names do not get in each other's way. -/
theorem gauge?_setAll (hnames : (values.map (·.1)).Nodup) (h : (name, value) ∈ values) :
    (x.setAll values).gauge? name = some value := by
  induction values generalizing x with
  | nil => cases h
  | cons v values ih =>
    obtain ⟨hnotMem, hrest⟩ := List.nodup_cons.1 hnames
    rcases List.mem_cons.1 h with rfl | h
    · calc (x.setAll ((name, value) :: values)).gauge? name
          = (x.set name value).gauge? name := gauge?_setAll_of_notMem _ hnotMem
        _ = some value := by rw [gauge?_set, if_pos rfl]
    · exact ih (x.set v.1 v.2) hrest h

/-- The total time of a record is the sum of the times that it is split into. -/
def AddsUp (x : Record) : Prop :=
  ∃ connect sent waiting download : Int,
    x.gauge? Gauge.connectTime = some connect ∧
    x.gauge? Gauge.requestSentTime = some sent ∧
    x.gauge? Gauge.waitingTime = some waiting ∧
    x.gauge? Gauge.downloadTime = some download ∧
    x.gauge? Gauge.totalTime = some (connect + sent + waiting + download)

end Record

/-! ### The time of an exchange -/

namespace Dialog

variable {d : Dialog} {shares : List Share} {p : Phase} {settings : NetworkSettings}
  {protocol : String} {found : Attributes} {payloadLength : Nat} {x : Record}

theorem exchangeRecord?_gauges
    (h : d.exchangeRecord? settings protocol found payloadLength = some x) :
    ∀ v ∈ d.exchangeGauges, x.gauge? v.1 = some v.2 := by
  obtain ⟨request, -, rfl⟩ := Option.map_eq_some_iff.1 h
  refine fun v hv ↦ Record.gauge?_setAll _ ?_ hv
  show [Gauge.connectTime, Gauge.requestSentTime, Gauge.waitingTime, Gauge.downloadTime,
    Gauge.totalTime, Gauge.requestBytes, Gauge.responseBytes].Nodup
  decide

/-- A phase that its first event opens spans its time. -/
theorem MadeOf.exists_spans (hd : d.MadeOf shares) {first last : Event} {later : List Event}
    (h : Share.eventsOf p shares = first :: later) (hopens : first.Opens later)
    (hlast : (first :: later).getLast? = some last) :
    ∃ b, d.get p = some b ∧ b.first = first ∧ b.Spans ∧
      b.lastTimestamp = last.timestamp.toNat := by
  obtain ⟨limit, b, hget, hb, hfirst⟩ := hd.exists_get h
  exact ⟨b, hget, hfirst, Burst.spans_of_opens hopens hb, Burst.lastTimestamp_ofEvents? hb hlast⟩

/-- **Between two spans everything inside cancels.** -/
theorem signed_total {request response : Burst} (hrequest : d.request = some request)
    (hresponse : d.response = some response) (hsent : request.Spans) (hreceived : response.Spans)
    (hbegun : response.first.latency ≤ response.first.timestamp)
    (hafter : request.first.startTime ≤ response.lastTimestamp)
    (hfirst : response.firstTimestamp < Word.count 63)
    (hrequestEnd : request.lastTimestamp < Word.count 63)
    (hresponseEnd : response.lastTimestamp < Word.count 63)
    (htotal : d.connectDuration + d.duration < Word.count 63) :
    Time.signed (d.connectDuration + d.duration) =
      Time.signed d.connectDuration + d.sentTime + d.waitingTime + d.downloadTime := by
  have hduration : d.duration = response.lastTimestamp - request.first.startTime := by
    rw [duration, hrequest, hresponse]
  have hsentTime : d.sentTime = Time.signed request.duration := by
    rw [sentTime, hrequest, Option.elim_some]
  have hwaitingTime : d.waitingTime = Time.signed response.firstTimestamp
      - Time.signed response.first.latency.toNat - Time.signed request.lastTimestamp := by
    rw [waitingTime, hrequest, hresponse]
  have hdownloadTime : d.downloadTime = Time.signed response.duration := by
    rw [downloadTime, hresponse, Option.elim_some]
  have hlatency : response.first.latency.toNat ≤ response.firstTimestamp :=
    UInt64.le_iff_toNat_le.1 hbegun
  have hstart : response.first.startTime =
      response.firstTimestamp - response.first.latency.toNat := rfl
  unfold Burst.Spans at hsent hreceived
  -- no time has the sign bit, so all of them are read as they are
  rw [hsentTime, hwaitingTime, hdownloadTime, Time.signed_of_lt htotal,
    Time.signed_of_lt (show d.connectDuration < _ by omega),
    Time.signed_of_lt (show request.duration < _ by omega), Time.signed_of_lt hfirst,
    Time.signed_of_lt (show response.first.latency.toNat < _ by omega),
    Time.signed_of_lt hrequestEnd,
    Time.signed_of_lt (show response.duration < _ by omega), hduration]
  omega

/-- **The times of a record add up**, however many events the request and the response were merged
of, provided that both phases are opened by their first events, that the response did not end
before the request began, and that no time needs the sign bit. Of the events of connecting nothing
is asked. -/
theorem total_adds_up {d : Dialog} {shares : List Share} (hd : d.MadeOf shares)
    {q r last : Event} {qs rs : List Event}
    (hrequest : Share.eventsOf .request shares = q :: qs)
    (hresponse : Share.eventsOf .response shares = r :: rs)
    (hq : q.Opens qs) (hr : r.Opens rs)
    (hlast : (r :: rs).getLast? = some last) (hafter : q.startTime ≤ last.timestamp.toNat)
    (htimes : ∀ e ∈ q :: qs ++ r :: rs, e.timestamp.toNat < Word.count 63)
    (htotal : d.connectDuration + d.duration < Word.count 63)
    (settings : NetworkSettings) (protocol : String) (found : Attributes) (payloadLength : Nat) :
    ∃ x, d.exchangeRecord? settings protocol found payloadLength = some x ∧ x.AddsUp := by
  obtain ⟨sent, hsent⟩ : ∃ sent, (q :: qs).getLast? = some sent :=
    ⟨_, List.getLast?_eq_some_getLast (List.cons_ne_nil q qs)⟩
  obtain ⟨request, hreq, rfl, hreqSpans, hreqEnd⟩ := hd.exists_spans hrequest hq hsent
  obtain ⟨response, hresp, rfl, hrespSpans, hrespEnd⟩ := hd.exists_spans hresponse hr hlast
  have hrecord : ∃ x, d.exchangeRecord? settings protocol found payloadLength = some x := by
    have hreq' : d.request = some request := hreq
    rw [exchangeRecord?, hreq']
    exact ⟨_, rfl⟩
  obtain ⟨x, hx⟩ := hrecord
  have hsum := signed_total hreq hresp hreqSpans hrespSpans hr.begun (hrespEnd ▸ hafter)
    (htimes _ (List.mem_append_right _ List.mem_cons_self))
    (hreqEnd ▸ htimes _ (List.mem_append_left _ (List.mem_of_getLast? hsent)))
    (hrespEnd ▸ htimes _ (List.mem_append_right _ (List.mem_of_getLast? hlast))) htotal
  have hgauges := exchangeRecord?_gauges hx
  simp only [exchangeGauges, List.forall_mem_cons, hsum] at hgauges
  obtain ⟨hconnect, hsentTime, hwaiting, hdownload, htotalTime, -⟩ := hgauges
  exact ⟨x, hx, _, _, _, _, hconnect, hsentTime, hwaiting, hdownload, htotalTime⟩

/-- A request in two pieces and a response in two pieces, on a connection that took 200. -/
theorem total_adds_up_pieces :
    let timed (name : String) (timestamp latency : UInt64) : Event :=
      { Event.sample name timestamp with latency }
    let shares : List Share := [(.connect, timed "connect" 1000 200),
      (.request, timed "write" 2000 300), (.request, timed "write" 2500 100),
      (.response, timed "read" 4000 500), (.response, timed "read" 4700 100)]
    ∃ x, (Dialog.ofShares 80 shares).exchangeRecord? {} "http" ∅ 80 = some x ∧ x.AddsUp ∧
      x.gauge? Gauge.totalTime = some 3200 := by
  intro timed shares
  obtain ⟨x, hx, hsum⟩ := total_adds_up (madeOf_ofShares 80 shares)
    (q := timed "write" 2000 300) (r := timed "read" 4000 500) rfl rfl (by decide) (by decide)
    rfl (by decide) (by decide) (by decide) {} "http" ∅ 80
  exact ⟨x, hx, hsum, exchangeRecord?_gauges hx (Gauge.totalTime, 3200) (by decide)⟩

end Dialog

end SocketWatch
