import SocketWatch.Proofs.Dialog.Rounds
import SocketWatch.Proofs.Dispatch.Pairing
import SocketWatch.Proofs.Dispatch.Run
import SocketWatch.Proofs.Wire.Dns
/-!
# Rounds of DNS queries

Over UDP several DNS queries may be in flight under one key, and their answers come in any order. A
round of queries (`Round.IsDns`) is one where every answer can find its query: the transactions of
the queries are distinct, there are no more queries than a burst keeps, and each answer is to one
of them, to each at most one. Then the answers of the round are, but for their order, the answers of
its exchanges (`IsDns.answers_perm`), and DNS reads its dialog exchange by exchange
(`IsDns.records?_dns`).

DNS is not the first protocol to be asked. MySQL declines the dialog (`IsDns.records?_mysql`), and
so does HTTP where there is an answer; where there is none, HTTP takes a query whose first bytes
happen to spell a method, and what keeps it from that is a hypothesis (`IsDns.records?_http`).
-/

namespace SocketWatch

open Wire

/-! ### Rounds of queries -/

namespace DialogKey

theorem of_udp {e : Event} {pid : UInt32} {fd : Int32} {srcIp dstIp : Ipv4}
    {srcPort dstPort : UInt16} (h : ofEvent e = .udp pid fd srcIp dstIp srcPort dstPort) :
    e.transport = .udp ∧ e.srcPort = srcPort ∧ e.dstPort = dstPort := by
  unfold ofEvent at h
  split at h
  · rename_i hudp
    cases h
    exact ⟨of_decide_eq_true hudp, rfl, rfl⟩
  · cases h

end DialogKey

namespace Round

variable {ρ : Round}

/-- The answer that has the transaction of a query. -/
def answerTo (ρ : Round) (q : Event) : Option Event :=
  ρ.answers.find? fun a ↦ (Dns.outcome? a.data).map (·.1) = Dns.queryId? q.data

/-- The queries of a round with their answers. -/
def exchanges (ρ : Round) : List Exchange := ρ.queries.map fun q ↦ ⟨q, ρ.answerTo q⟩

/-- A round of DNS queries under a key: few enough to be kept, each with a transaction of its own,
none later than the first one allows, and answers to these queries, none of them twice. -/
structure IsDns (ρ : Round) (k : DialogKey) : Prop where
  /-- There is a query. -/
  asked : ρ.queries ≠ []
  /-- All are kept. -/
  few : ρ.queries.length ≤ Burst.maxEvents
  /-- The queries are valid. -/
  query : ∀ q ∈ ρ.queries, DialogKey.ofEvent q = k ∧ q.phase? true = some .request ∧
    (Dns.queryId? q.data).isSome = true
  /-- Their transactions are distinct. -/
  distinct : (ρ.queries.map fun q ↦ Dns.queryId? q.data).Nodup
  /-- They come within the time that the first one allows. -/
  timely : ∀ first, ρ.queries.head? = some first → ∀ q ∈ ρ.queries, q.timestamp.toNat ≤
    first.startTime + Time.ofSeconds ({} : NetworkSettings).requestTimeoutSecs
  /-- The answers are valid, and each answers one of the queries. -/
  answer : ∀ a ∈ ρ.answers, DialogKey.ofEvent a = k ∧ a.phase? true = some .response ∧
    ∃ id rcode, Dns.outcome? a.data = some (id, rcode) ∧
      ∃ q ∈ ρ.queries, Dns.queryId? q.data = some id
  /-- No query is answered twice. -/
  once : (ρ.answers.map fun a ↦ (Dns.outcome? a.data).map (·.1)).Nodup

/-- A round that is answered, or else does not begin with bytes that spell an HTTP method. -/
def SpellsNoMethod (ρ : Round) : Prop :=
  ρ.answers = [] → ∀ first, ρ.queries.head? = some first →
    Http.method? { data := first.data } = none

variable {pid : UInt32} {fd : Int32} {srcIp dstIp : Ipv4} {srcPort dstPort : UInt16}

/-- The store keeps such a round together. -/
theorem IsDns.fits (h : ρ.IsDns (.udp pid fd srcIp dstIp srcPort dstPort)) :
    ρ.Fits {} true (.udp pid fd srcIp dstIp srcPort dstPort) where
  asked := h.asked
  query q hq := ⟨(h.query q hq).1, (h.query q hq).2.1⟩
  timely q hq b hb := by
    have htime := h.timely b.first hb q hq
    have hfirst : b.first ∈ ρ.queries := List.mem_of_head? hb
    -- a changed source port would end the burst as well, but it is part of the key
    have hport : q.srcPort = b.first.srcPort := by
      rw [(DialogKey.of_udp (h.query q hq).1).2.1, (DialogKey.of_udp (h.query _ hfirst).1).2.1]
    unfold Burst.isTimeout
    split
    · rfl
    · simp only [hport, ne_eq, not_true_eq_false, decide_false, Bool.or_false,
        decide_eq_false_iff_not]
      omega
  answer a ha := ⟨(h.answer a ha).1, (h.answer a ha).2.1⟩

/-- The answer to a query is the one that has its transaction. -/
theorem IsDns.answerTo_eq_some_iff {k : DialogKey} (h : ρ.IsDns k) {q a : Event} :
    ρ.answerTo q = some a ↔
      a ∈ ρ.answers ∧ (Dns.outcome? a.data).map (·.1) = Dns.queryId? q.data := by
  constructor
  · intro hq
    exact ⟨List.mem_of_find?_eq_some hq, by simpa using List.find?_some hq⟩
  · rintro ⟨ha, hid⟩
    obtain ⟨b, hb⟩ : ∃ b, ρ.answerTo q = some b := by
      refine Option.isSome_iff_exists.1 (List.find?_isSome.2 ⟨a, ha, ?_⟩)
      exact decide_eq_true hid
    have hb' : (Dns.outcome? b.data).map (·.1) = Dns.queryId? q.data := by
      simpa using List.find?_some hb
    -- no query is answered twice
    rw [hb, List.inj_on_of_nodup_map h.once ha (List.mem_of_find?_eq_some hb) (hid.trans hb'.symm)]

/-- **The answers of a round are the answers of its exchanges**, each once. -/
theorem IsDns.answers_perm {k : DialogKey} (h : ρ.IsDns k) :
    ρ.answers.Perm (ρ.exchanges.filterMap (·.answer)) := by
  have hfilter : ρ.exchanges.filterMap (·.answer) = ρ.queries.filterMap ρ.answerTo := by
    rw [exchanges, List.filterMap_map]
    rfl
  have hnodup : (ρ.queries.filterMap ρ.answerTo).Nodup := by
    rw [List.Nodup, List.pairwise_filterMap]
    refine (List.pairwise_map.1 h.distinct).imp fun hne b hb b' hb' heq ↦ hne ?_
    rw [← (h.answerTo_eq_some_iff.1 hb).2, ← (h.answerTo_eq_some_iff.1 hb').2, heq]
  -- nothing stands twice in either list, so they are compared by their members
  rw [hfilter]
  refine (List.perm_ext_iff_of_nodup h.once.of_map hnodup).2 fun a ↦ ?_
  rw [List.mem_filterMap]
  constructor
  · intro ha
    obtain ⟨-, -, id, rcode, hout, q, hq, hid⟩ := h.answer a ha
    exact ⟨q, hq, h.answerTo_eq_some_iff.2 ⟨ha, by rw [hout, hid]; rfl⟩⟩
  · rintro ⟨q, -, hq⟩
    exact (h.answerTo_eq_some_iff.1 hq).1

/-- An answer has the transaction of its query. -/
theorem IsDns.exchange_spec {k : DialogKey} (h : ρ.IsDns k) {x : Exchange}
    (hx : x ∈ ρ.exchanges) :
    x.query ∈ ρ.queries ∧ ∃ id, Dns.queryId? x.query.data = some id ∧
      ∀ a, x.answer = some a → ∃ rcode, Dns.outcome? a.data = some (id, rcode) := by
  obtain ⟨q, hq, rfl⟩ := List.mem_map.1 hx
  obtain ⟨id, hid⟩ := Option.isSome_iff_exists.1 (h.query q hq).2.2
  refine ⟨hq, id, hid, fun a ha ↦ ?_⟩
  obtain ⟨hmem, hmatch⟩ := h.answerTo_eq_some_iff.1 ha
  obtain ⟨-, -, id', rcode, hout, -⟩ := h.answer a hmem
  rw [hout, hid] at hmatch
  rw [hout, ← Option.some.inj hmatch]
  exact ⟨rcode, rfl⟩

/-! ### Reading a round -/

/-- The message that a query is read as. -/
def askedAs (q : Event) : Message :=
  (Dns.request? { data := q.data, transport := .udp }).getD default

/-- The message that an answer is read as. -/
def answeredAs (a : Event) : Message :=
  (Dns.response? { data := a.data, transport := .udp }).getD default

theorem askedAs_spec {q : Event} {id : Nat} (hq : Dns.queryId? q.data = some id) :
    Dns.request? { data := q.data, transport := .udp } = some (askedAs q) ∧
      (askedAs q).attributes.find? Label.dnsId = some (.int (Int64.ofInt id)) ∧
      (askedAs q).attributes.find? Label.dnsRcode = none := by
  obtain ⟨m, hm, hid, hrcode, -⟩ := Dns.queryId?_spec hq
  have hasked : askedAs q = m := by rw [askedAs, hm]; rfl
  rw [hasked]
  exact ⟨hm, hid, hrcode⟩

/-- The outcome of an answer decides whether it speaks of an error. -/
theorem answeredAs_spec {a : Event} {id rcode : Nat}
    (ha : Dns.outcome? a.data = some (id, rcode)) :
    Dns.response? { data := a.data, transport := .udp } = some (answeredAs a) ∧
      (answeredAs a).attributes.find? Label.dnsId = some (.int (Int64.ofInt id)) ∧
      (answeredAs a).attributes.find? Label.dnsRcode = some (.int (Int64.ofInt rcode)) ∧
      (if rcode = 0 then (answeredAs a).attributes.Silent
        else (answeredAs a).attributes.Accuses) := by
  obtain ⟨m, hm, hid, hrcode, ⟨kept, hkeeps, hkept⟩, -⟩ := Dns.outcome?_spec ha
  have hanswered : answeredAs a = m := by rw [answeredAs, hm]; rfl
  rw [hanswered]
  refine ⟨hm, hid, hrcode, ?_⟩
  rw [hkept, Message.protocolErrorIf]
  by_cases hzero : rcode = 0
  · rw [if_pos hzero, if_neg (by omega)]
    exact hkeeps.silent Attributes.silent_empty
  · rw [if_neg hzero, if_pos (by omega)]
    exact hkeeps.accuses Attributes.silent_empty

theorem getInt_askedAs {q : Event} {id : Nat} (hq : Dns.queryId? q.data = some id) :
    (askedAs q).attributes.getInt Label.dnsId = Int64.ofInt id :=
  Dns.getInt_of_find? (askedAs_spec hq).2.1

theorem getInt_answeredAs {a : Event} {id rcode : Nat}
    (ha : Dns.outcome? a.data = some (id, rcode)) :
    (answeredAs a).attributes.getInt Label.dnsId = Int64.ofInt id :=
  Dns.getInt_of_find? (answeredAs_spec ha).2.1

/-- **DNS reads such a round, and pairs its answers with its queries.** -/
theorem IsDns.reads {k : DialogKey} (h : ρ.IsDns k) :
    Protocol.dns.Reads .udp ρ.exchanges askedAs answeredAs where
  request x hx := by
    obtain ⟨-, id, hid, -⟩ := h.exchange_spec hx
    exact (askedAs_spec hid).1
  response x hx a ha := by
    obtain ⟨-, id, -, hanswer⟩ := h.exchange_spec hx
    obtain ⟨rcode, hout⟩ := hanswer a ha
    exact (answeredAs_spec hout).1
  matching i x a hi ha := by
    obtain ⟨-, id, hid, hanswer⟩ := h.exchange_spec (List.mem_of_getElem? hi)
    obtain ⟨rcode, hout⟩ := hanswer a ha
    refine Dns.matching?_eq_some (q := askedAs x.query) ?_ ?_ ?_
    · have hqueries : (ρ.exchanges.map fun x ↦ askedAs x.query).map
          (·.attributes.getInt Label.dnsId) =
            ρ.queries.map fun q ↦ (askedAs q).attributes.getInt Label.dnsId := by
        rw [exchanges, List.map_map, List.map_map]
        rfl
      rw [hqueries]
      refine h.distinct.of_map.map_on fun q hq q' hq' heq ↦ ?_
      obtain ⟨id, hid⟩ := Option.isSome_iff_exists.1 (h.query q hq).2.2
      obtain ⟨id', hid'⟩ := Option.isSome_iff_exists.1 (h.query q' hq').2.2
      obtain ⟨-, -, -, -, hlt, -⟩ := Dns.queryId?_spec hid
      obtain ⟨-, -, -, -, hlt', -⟩ := Dns.queryId?_spec hid'
      rw [getInt_askedAs hid, getInt_askedAs hid'] at heq
      refine List.inj_on_of_nodup_map h.distinct hq hq' ?_
      rw [hid, hid', Dns.id_injective hlt hlt' heq]
    · rw [List.getElem?_map, hi]
      rfl
    · rw [getInt_askedAs hid, getInt_answeredAs hout]

/-! ### The dialog of a round -/

/-- The requests of the dialog of a round: all queries, and the bytes of the first one first. -/
theorem IsDns.exists_request {k : DialogKey} (h : ρ.IsDns k) (limit : Nat) :
    ∃ burst, (ρ.dialog limit).request = some burst ∧ ρ.queries.head? = some burst.first ∧
      burst.limit = limit ∧ burst.events = ρ.queries ∧
      burst.first.data.take limit <+: burst.data := by
  obtain ⟨burst, hburst⟩ : ∃ burst, Burst.ofEvents? limit ρ.queries = some burst := by
    cases hqueries : ρ.queries with
    | nil => exact absurd hqueries h.asked
    | cons q qs => exact ⟨_, rfl⟩
  obtain ⟨hhead, hlimit, hdata, hevents⟩ := Burst.ofEvents?_spec hburst
  exact ⟨burst, hburst, hhead, hlimit, hevents h.few, hdata⟩

/-- No more queries are answered than are asked, so all answers are kept. -/
theorem IsDns.length_answers_le {k : DialogKey} (h : ρ.IsDns k) :
    ρ.answers.length ≤ Burst.maxEvents := by
  have hle : (ρ.exchanges.filterMap (·.answer)).length ≤ ρ.exchanges.length :=
    List.length_filterMap_le _ _
  rw [h.answers_perm.length_eq]
  rw [exchanges, List.length_map] at hle
  exact Nat.le_trans hle h.few

theorem IsDns.response_events {k : DialogKey} (h : ρ.IsDns k) (limit : Nat) :
    (ρ.dialog limit).response.elim [] (·.events) = ρ.answers := by
  show (Burst.ofEvents? limit ρ.answers).elim [] (·.events) = ρ.answers
  cases hburst : Burst.ofEvents? limit ρ.answers with
  | none =>
    cases hanswers : ρ.answers with
    | nil => rfl
    | cons a as =>
      rw [hanswers] at hburst
      cases hburst
  | some burst => exact (Burst.ofEvents?_spec hburst).2.2.2 h.length_answers_le

/-! ### Which protocols recognise it -/

variable {r : Dispatcher} {e : Registration} {i limit : Nat}

/-- **DNS recognises the dialog of a round**, and reports each of its exchanges. -/
theorem IsDns.records?_dns (h : ρ.IsDns (.udp pid fd srcIp dstIp srcPort dstPort))
    (he : r.registry.get? i = some e) (hp : e.protocol = .dns) :
    ∃ records, r.records? (ρ.dialog limit) i = some records ∧ records.Perm
      (ρ.exchanges.flatMap (r.exchangeRecords e (ρ.dialog limit) limit askedAs answeredAs)) := by
  obtain ⟨burst, hburst, hhead, hlimit, hevents, -⟩ := h.exists_request limit
  have hudp : burst.first.transport = .udp :=
    (DialogKey.of_udp (h.query _ (List.mem_of_head? hhead)).1).1
  have hreads : e.protocol.Reads burst.first.transport ρ.exchanges askedAs answeredAs := by
    rw [hp, hudp]
    exact h.reads
  have hqueries : burst.events = ρ.exchanges.map (·.query) := by
    rw [hevents, exchanges, List.map_map]
    exact (List.map_id _).symm
  have hanswers := h.answers_perm
  rw [← h.response_events limit] at hanswers
  obtain ⟨records, hrecords, hperm⟩ :=
    Dispatcher.multiplexedRecords?_perm (r := r) hburst hqueries hanswers hreads
  refine ⟨records, ?_, hlimit ▸ hperm⟩
  rw [Dispatcher.records?, he, ← hrecords]
  simp [hp, Protocol.isMultiplexed]

/-- The first bytes of a burst are those of its first event. -/
theorem take_data {burst : Burst} {n : Nat}
    (hdata : burst.first.data.take limit <+: burst.data) (hn : n ≤ limit)
    (hlength : n ≤ burst.first.data.length) : burst.data.take n = burst.first.data.take n := by
  obtain ⟨rest, hrest⟩ := hdata
  rw [← hrest, List.take_append_of_le_length (by rw [List.length_take]; omega), List.take_take,
    Nat.min_eq_left hn]

theorem getElem?_data {burst : Burst} {n : Nat}
    (hdata : burst.first.data.take limit <+: burst.data) (hn : n < limit)
    (hlength : n < burst.first.data.length) : burst.data[n]? = burst.first.data[n]? := by
  rw [← List.getElem?_take_of_lt (Nat.lt_succ_self n), take_data hdata hn hlength,
    List.getElem?_take_of_lt (Nat.lt_succ_self n)]

/-- Where a protocol that reads dialogs as a whole recognises one, it reads the request and the
response. -/
theorem exists_finding (he : r.registry.get? i = some e) (hp : e.protocol.isMultiplexed = false)
    {d : Dialog} (hrecords : r.records? d i ≠ none) : ∃ found, e.protocol.Finding d found := by
  obtain ⟨records, hrecords⟩ := Option.ne_none_iff_exists'.1 hrecords
  rw [Dispatcher.records?, he] at hrecords
  obtain ⟨_, _, found, -, hreading, -⟩ :=
    Dispatcher.wholeRecords?_eq_some hp (by simpa [hp] using hrecords)
  exact ⟨found, hreading.finding⟩

/-- MySQL does not recognise it: a query is no command. -/
theorem IsDns.records?_mysql {k : DialogKey} (h : ρ.IsDns k) (he : r.registry.get? i = some e)
    (hp : e.protocol = .mysql) (hlimit : 9 ≤ limit) : r.records? (ρ.dialog limit) i = none := by
  by_contra hrecords
  obtain ⟨found, hfound⟩ := exists_finding he (by rw [hp]; rfl) hrecords
  obtain ⟨burst, hburst, hhead, -, -, hdata⟩ := h.exists_request limit
  obtain ⟨id, hid⟩ := Option.isSome_iff_exists.1 (h.query _ (List.mem_of_head? hhead)).2.2
  obtain ⟨-, -, -, -, -, hlength, hbyte⟩ := Dns.queryId?_spec hid
  -- where a command would stand, a query counts its questions
  have hzero : burst.data[4]? = some 0 := by
    simp only [Dns.headerLength] at hlength
    rw [getElem?_data hdata (by omega) (by omega), hbyte]
  obtain ⟨transport, hread⟩ := hfound.exists_request? hburst
  rw [hp, Protocol.request?, Dns.mysql_request?_eq_none hzero] at hread
  cases hread

/-- HTTP does not recognise it: an answer is no response, and where there is none, the first query
is to spell no method. -/
theorem IsDns.records?_http {k : DialogKey} (h : ρ.IsDns k) (he : r.registry.get? i = some e)
    (hp : e.protocol = .http) (hlimit : 9 ≤ limit)
    (hmethod : ρ.SpellsNoMethod) : r.records? (ρ.dialog limit) i = none := by
  by_contra hrecords
  obtain ⟨found, hfound⟩ := exists_finding he (by rw [hp]; rfl) hrecords
  cases hanswers : ρ.answers with
  | nil =>
    obtain ⟨burst, hburst, hhead, -, -, hdata⟩ := h.exists_request limit
    obtain ⟨id, hid⟩ := Option.isSome_iff_exists.1 (h.query _ (List.mem_of_head? hhead)).2.2
    obtain ⟨-, -, -, -, -, hlength, -⟩ := Dns.queryId?_spec hid
    have hnine : 9 ≤ burst.first.data.length := by
      simp only [Dns.headerLength] at hlength
      omega
    obtain ⟨transport, hread⟩ := hfound.exists_request? hburst
    have hnone : Http.method? { data := burst.data, transport } = none := by
      rw [← hmethod hanswers _ hhead]
      exact (Dns.http_method?_congr (m := { data := burst.first.data })
        (take_data hdata hlimit hnine).symm hnine).symm
    rw [hp, Protocol.request?, Http.request?, hnone] at hread
    split at hread <;> cases hread
  | cons a as =>
    obtain ⟨burst, hburst⟩ : ∃ burst, (ρ.dialog limit).response = some burst := by
      show ∃ burst, Burst.ofEvents? limit ρ.answers = some burst
      rw [hanswers]
      exact ⟨_, rfl⟩
    obtain ⟨hhead, -, hdata, -⟩ := Burst.ofEvents?_spec hburst
    obtain ⟨-, -, id, rcode, hout, -⟩ := h.answer _ (List.mem_of_head? hhead)
    obtain ⟨-, -, -, -, -, -, hlength, b, hb, hmark⟩ := Dns.outcome?_spec hout
    have hbyte : burst.data[2]? = some b := by
      simp only [Dns.headerLength] at hlength
      rw [getElem?_data hdata (by omega) (by omega), hb]
    obtain ⟨m, hm, hread⟩ := hfound.exists_response? hburst
    rw [hp, Protocol.response?, Dns.http_response?_eq_none (hm ▸ hbyte) hmark] at hread
    cases hread

end Round

end SocketWatch
