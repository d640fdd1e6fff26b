import SocketWatch.Proofs.Dialog.Timing
import SocketWatch.Proofs.Network.InFlight
import SocketWatch.Proofs.Wire.Correlation
/-!
# How DNS takes a dialog apart

What comes of a dialog that DNS reads, said without the reader's own search: by the transactions,
as the bytes have them. The reader looks for the query of an answer among messages it has read, and
compares labels; that this finds the first query of the transaction (`Wire.Dns.askedAt?`) is the
point where the two descriptions meet (`Wire.Dns.matching?_eq_askedAt?`).

From there on it is about lists side by side. The dialog is refused exactly where some message is
not read or some answer has no query. Otherwise the answers come first, each with its query, and the
queries that none of them went to come after them (`Dispatcher.records?_of_dns`). Queries may have the
same transaction and may be answered twice: an answer always goes to the first query there is.

The time of an exchange goes into a gauge, which has a sign, so it is shown as it is only below half
of what a time can be (`Dispatcher.dns_total_wraps`).
-/

namespace SocketWatch

open Wire

namespace Wire.Dns

/-- The transaction of a message, by its bytes. -/
def transaction? (transport : Transport) (data : List UInt8) : Option Nat :=
  uint? data (if transport = .tcp then 2 else 0) 2

/-- The position of the query that an answer goes to: the first one that has its transaction. -/
def askedAt? (transport : Transport) (queries : List Event) (a : Event) : Option Nat :=
  queries.findIdx? fun q ↦ transaction? transport q.data = transaction? transport a.data

/-- The queries that none of the answers goes to. -/
def unanswered (transport : Transport) (queries answers : List Event) : List Event :=
  (queries.zipIdx.filter fun u ↦
    !(answers.map (askedAt? transport queries)).contains (some u.2)).map (·.1)

variable {transport : Transport} {queries : List Event} {messages : List Message} {a : Event}
  {m' : Message}

theorem askedAt?_ne_none_iff : askedAt? transport queries a ≠ none ↔
    ∃ q ∈ queries, transaction? transport q.data = transaction? transport a.data := by
  rw [askedAt?, Option.ne_none_iff_isSome, List.findIdx?_isSome, List.any_eq_true]
  simp only [decide_eq_true_eq]

/-- **The reader finds the first query of the transaction.** -/
theorem matching?_eq_askedAt?
    (hqueries : List.Forall₂ (fun q m ↦ request? { data := q.data, transport } = some m)
      queries messages)
    (ha : response? { data := a.data, transport } = some m') :
    matching? messages m' = askedAt? transport queries a := by
  obtain ⟨id', hlt', hid', hlabel'⟩ := response?_number ha
  induction hqueries with
  | nil => rfl
  | @cons q m queries messages hq _ ih =>
    obtain ⟨id, hlt, hid, hlabel⟩ := request?_number hq
    have hsame : m.attributes.getInt Label.dnsId = m'.attributes.getInt Label.dnsId ↔
        transaction? transport q.data = transaction? transport a.data := by
      rw [getInt_of_find? hlabel, getInt_of_find? hlabel', transaction?, transaction?, hid, hid']
      exact ⟨fun h ↦ congrArg some (id_injective hlt hlt' h),
        fun h ↦ congrArg (fun n : Nat ↦ Int64.ofInt n) (Option.some.inj h)⟩
    simp only [matching?, askedAt?] at ih
    simp only [matching?, askedAt?, List.findIdx?_cons, hsame, ih]

/-- The queries that no answer goes to, found beside the messages that were read of them. -/
theorem unanswered_eq {answers : List Event} {positions : List Nat}
    (hasked : answers.map (askedAt? transport queries) = positions.map some)
    (hlength : queries.length = messages.length) :
    unanswered transport queries answers =
      ((queries.zip messages).zipIdx.filter fun u ↦ !positions.contains u.2).map (·.1.1) := by
  have hzip : queries.zipIdx = (queries.zip messages).zipIdx.map (Prod.map Prod.fst id) := by
    rw [← List.zipIdx_map, List.map_fst_zip hlength.le]
  rw [unanswered, hasked, hzip, List.filter_map, List.map_map]
  refine congrArg (List.map _) (List.filter_congr fun u _ ↦ congrArg not ?_)
  rw [Bool.eq_iff_iff, List.contains_iff_mem, List.contains_iff_mem]
  exact List.mem_map_of_injective fun _ _ h ↦ Option.some.inj h

end Wire.Dns

namespace Dispatcher

variable {r : Dispatcher} {e : Registration} {d : Dialog} {burst : Burst} {messages : List Message}
  {a : Event}

/-- The record of an answer: it shows what was read of the answer and of the query that the answer
goes to, over what was read of the query, and the time between them. -/
def ShowsAnswer (r : Dispatcher) (e : Registration) (d : Dialog) (burst : Burst) (a : Event)
    (x : Record) : Prop :=
  ∃ (i : Nat) (q : Event) (m m' : Message),
    Dns.askedAt? burst.first.transport burst.events a = some i ∧ burst.events[i]? = some q ∧
      Dns.request? { data := q.data, transport := burst.first.transport } = some m ∧
      Dns.response? { data := a.data, transport := burst.first.transport } = some m' ∧
      (Dialog.single q (some a) d.natTarget burst.limit).exchangeRecord? r.settings
        Protocol.dns.key (m.attributes.overlay m'.attributes) e.payloadLength = some x ∧
      x.gauge? Gauge.connectTime = some 0 ∧
      x.gauge? Gauge.totalTime = some (Time.signed (a.timestamp.toNat - q.startTime))

/-- The record of a query that was not answered: it shows what was read of the query, and that there
was no answer. -/
def ShowsQuery (r : Dispatcher) (e : Registration) (d : Dialog) (burst : Burst) (q : Event)
    (x : Record) : Prop :=
  ∃ m, Dns.request? { data := q.data, transport := burst.first.transport } = some m ∧
    (Dialog.single q none d.natTarget burst.limit).exchangeRecord? r.settings
      Protocol.dns.key m.attributes e.payloadLength = some x ∧
    x.Tells .noResponse

/-- What becomes of an answer: it is read, and it goes to a query. -/
theorem answer?_dns_eq_some_iff (hqueries : List.Forall₂
      (fun q m ↦ Dns.request? { data := q.data, transport := burst.first.transport } = some m)
      burst.events messages) {answer : Nat × Event × Attributes} :
    answer? .dns burst.first.transport messages a = some answer ↔
      ∃ i m m', Dns.askedAt? burst.first.transport burst.events a = some i ∧
        messages[i]? = some m ∧
        Dns.response? { data := a.data, transport := burst.first.transport } = some m' ∧
        answer = (i, a, m.attributes.overlay m'.attributes) := by
  constructor
  · intro h
    obtain ⟨m', i, m, hm', hi, hm, rfl⟩ := answer?_eq_some h
    refine ⟨i, m, m', ?_, hm, hm', rfl⟩
    rw [← Dns.matching?_eq_askedAt? hqueries hm']
    exact hi
  · rintro ⟨i, m, m', hi, hm, hm', rfl⟩
    rw [← Dns.matching?_eq_askedAt? hqueries hm'] at hi
    exact Option.bind_eq_some_iff.2 ⟨m', hm', Option.bind_eq_some_iff.2 ⟨i, hi,
      Option.bind_eq_some_iff.2 ⟨m, hm, rfl⟩⟩⟩

theorem answer?_dns_ne_none_iff (hqueries : List.Forall₂
      (fun q m ↦ Dns.request? { data := q.data, transport := burst.first.transport } = some m)
      burst.events messages) :
    answer? .dns burst.first.transport messages a ≠ none ↔
      Dns.response? { data := a.data, transport := burst.first.transport } ≠ none ∧
        Dns.askedAt? burst.first.transport burst.events a ≠ none := by
  simp only [Option.ne_none_iff_exists', answer?_dns_eq_some_iff hqueries]
  constructor
  · rintro ⟨answer, i, m, m', hi, -, hm', -⟩
    exact ⟨⟨m', hm'⟩, i, hi⟩
  · rintro ⟨⟨m', hm'⟩, i, hi⟩
    have hlt := (List.findIdx?_eq_some_iff_getElem.1 hi).1
    rw [hqueries.length_eq] at hlt
    exact ⟨_, i, messages[i], m', hi, List.getElem?_eq_getElem hlt, hm', rfl⟩

/-- The gauges of the time between a query and its answer. -/
theorem gauges_single {q : Event} {natTarget : Option FourTuple} {limit : Nat}
    {s : NetworkSettings} {protocol : String} {found : Attributes} {length : Nat} {x : Record}
    (h : (Dialog.single q (some a) natTarget limit).exchangeRecord? s protocol found length =
      some x) :
    x.gauge? Gauge.connectTime = some 0 ∧
      x.gauge? Gauge.totalTime = some (Time.signed (a.timestamp.toNat - q.startTime)) := by
  have hgauges := Dialog.exchangeRecord?_gauges h
  simp only [Dialog.exchangeGauges, List.forall_mem_cons] at hgauges
  obtain ⟨hconnect, -, -, -, htotal, -⟩ := hgauges
  have hnone : (Dialog.single q (some a) natTarget limit).connectDuration = 0 := rfl
  have hduration : (Dialog.single q (some a) natTarget limit).duration =
      a.timestamp.toNat - q.startTime := rfl
  rw [hnone, Time.signed_of_lt (Word.count_pos 63)] at hconnect
  rw [hnone, hduration, Nat.zero_add] at htotal
  exact ⟨hconnect, htotal⟩

section

variable (hp : e.protocol = .dns)

include hp

theorem records?_eq_multiplexedRecords? {i : Nat} (he : r.registry.get? i = some e) :
    r.records? d i = r.multiplexedRecords? e d := by
  rw [records?, he]
  show (if e.protocol.isMultiplexed = true then _ else _) = _
  rw [hp]
  rfl

/-- A dialog is taken apart exactly where all messages are read and every answer goes to a query. -/
theorem multiplexedRecords?_dns_ne_none_iff (hburst : d.request = some burst) :
    r.multiplexedRecords? e d ≠ none ↔
      (∀ q ∈ burst.events,
        Dns.request? { data := q.data, transport := burst.first.transport } ≠ none) ∧
      ∀ a ∈ d.response.elim [] (·.events),
        Dns.response? { data := a.data, transport := burst.first.transport } ≠ none ∧
          Dns.askedAt? burst.first.transport burst.events a ≠ none := by
  obtain ⟨p, length, discern⟩ := e
  obtain rfl : p = .dns := hp
  constructor
  · intro h
    obtain ⟨records, hrecords⟩ := Option.ne_none_iff_exists'.1 h
    obtain ⟨burst', messages, answers, units, hburst', hmessages, hanswers, -, -⟩ :=
      multiplexedRecords?_eq_some hrecords
    obtain rfl : burst = burst' := Option.some.inj (hburst.symm.trans hburst')
    refine ⟨mapM_ne_none_iff.1 (Option.ne_none_iff_exists'.2 ⟨messages, hmessages⟩),
      fun a ha ↦ (answer?_dns_ne_none_iff (mapM_eq_some_iff.1 hmessages)).1 ?_⟩
    exact mapM_ne_none_iff.1 (Option.ne_none_iff_exists'.2 ⟨answers, hanswers⟩) a ha
  · rintro ⟨hrequests, hresponses⟩
    obtain ⟨messages, hmessages⟩ := Option.ne_none_iff_exists'.1 (mapM_ne_none_iff.2 hrequests)
    have hqueries := mapM_eq_some_iff.1 hmessages
    obtain ⟨answers, hanswers⟩ := Option.ne_none_iff_exists'.1
      (mapM_ne_none_iff.2 fun a ha ↦ (answer?_dns_ne_none_iff hqueries).2 (hresponses a ha))
    -- a position that was found is one of a query, so the last step refuses nothing
    have hunits : (answers.mapM fun answer ↦ do
        some (r.unitRecords ⟨.dns, length, discern⟩ d burst.limit (← burst.events[answer.1]?)
          (some answer.2.1) answer.2.2)) ≠ none := mapM_ne_none_iff.2 fun answer hanswer ↦ by
      obtain ⟨a, -, ha⟩ := mem_of_mapM hanswers hanswer
      obtain ⟨i, m, m', hi, -, -, rfl⟩ := (answer?_dns_eq_some_iff hqueries).1 ha
      have hlt := (List.findIdx?_eq_some_iff_getElem.1 hi).1
      exact Option.ne_none_iff_exists'.2
        ⟨_, Option.bind_eq_some_iff.2 ⟨_, List.getElem?_eq_getElem hlt, rfl⟩⟩
    obtain ⟨units, hunits⟩ := Option.ne_none_iff_exists'.1 hunits
    exact Option.ne_none_iff_exists'.2 ⟨_, Option.bind_eq_some_iff.2 ⟨burst, hburst,
      Option.bind_eq_some_iff.2 ⟨messages, hmessages, Option.bind_eq_some_iff.2 ⟨answers, hanswers,
        Option.bind_eq_some_iff.2 ⟨units, hunits, rfl⟩⟩⟩⟩⟩

/-- **The records of a dialog that is taken apart**: first the answers, each with its query, then
the queries that were not answered. -/
theorem shows_of_multiplexedRecords?_dns (hburst : d.request = some burst) {records : List Record}
    (h : r.multiplexedRecords? e d = some records) :
    ∃ answered rest, records = answered ++ rest ∧
      List.Forall₂ (r.ShowsAnswer e d burst) (d.response.elim [] (·.events)) answered ∧
      List.Forall₂ (r.ShowsQuery e d burst)
        (Dns.unanswered burst.first.transport burst.events (d.response.elim [] (·.events)))
        rest := by
  obtain ⟨p, length, discern⟩ := e
  obtain rfl : p = .dns := hp
  obtain ⟨burst', messages, answers, units, hburst', hmessages, hanswers, hunits, rfl⟩ :=
    multiplexedRecords?_eq_some h
  obtain rfl : burst = burst' := Option.some.inj (hburst.symm.trans hburst')
  have hqueries := mapM_eq_some_iff.1 hmessages
  have hplaces := mapM_eq_some_iff.1 hanswers
  refine ⟨units.flatten, _, rfl, forall₂_flatten (forall₂_trans ?_ hplaces hunits), ?_⟩
  · rintro a answer unit hanswer ⟨q, hq, rfl⟩
    obtain ⟨i, m, m', hi, hm, hm', rfl⟩ := (answer?_dns_eq_some_iff hqueries).1 hanswer
    obtain ⟨x, hx⟩ : ∃ x, (Dialog.single q (some a) d.natTarget burst.limit).exchangeRecord?
        r.settings Protocol.dns.key (m.attributes.overlay m'.attributes) length = some x := ⟨_, rfl⟩
    exact ⟨x, congrArg Option.toList hx, i, q, m, m', hi, hq, getElem?_of_mapM hmessages hq hm, hm',
      hx, gauges_single hx⟩
  · -- the places of the answers are the positions of their queries
    have hasked : (d.response.elim [] (·.events)).map
        (Dns.askedAt? burst.first.transport burst.events) = (answers.map (·.1)).map some := by
      rw [List.map_map, ← List.forall₂_eq_eq_eq, List.forall₂_map_left_iff,
        List.forall₂_map_right_iff]
      refine hplaces.imp fun a answer hanswer ↦ ?_
      obtain ⟨i, m, m', hi, -, -, rfl⟩ := (answer?_dns_eq_some_iff hqueries).1 hanswer
      exact hi
    rw [Dns.unanswered_eq hasked hqueries.length_eq, List.forall₂_map_left_iff]
    refine forall₂_flatMap fun ⟨⟨q, m⟩, i⟩ hmem ↦ ?_
    have hget := List.mem_zipIdx_iff_getElem?.1 (List.mem_filter.1 hmem).1
    obtain ⟨hq, hm⟩ := List.getElem?_zip_eq_some.1 hget
    have hread := getElem?_of_mapM hmessages hq hm
    have hsilent := (Dns.keeps_of_request? hread).silent Attributes.silent_empty
    obtain ⟨x, hx⟩ : ∃ x, (Dialog.single q none d.natTarget burst.limit).exchangeRecord?
        r.settings Protocol.dns.key m.attributes length = some x := ⟨_, rfl⟩
    exact ⟨x, congrArg Option.toList hx, m, hread, hx, Dialog.exchangeRecord?_of_silent hsilent hx⟩

end

/-- **What DNS makes of a dialog with a request.** It refuses the dialog exactly where a query or an
answer that is kept is not read, or an answer has the transaction of no query. Else the records are
those of the answers, in order, each with the first query of its transaction, and then those of the
queries that no answer went to, in order, each of which tells that there was none. -/
theorem records?_of_dns (r : Dispatcher) {i : Nat} {e : Registration}
    (he : r.registry.get? i = some e) (hp : e.protocol = .dns) {d : Dialog} {burst : Burst}
    (hburst : d.request = some burst) :
    let transport := burst.first.transport
    let queries := burst.events
    let answers := d.response.elim [] (·.events)
    (r.records? d i = none ↔
      (∃ q ∈ queries, Dns.request? { data := q.data, transport } = none) ∨
      (∃ a ∈ answers, Dns.response? { data := a.data, transport } = none) ∨
      ∃ a ∈ answers, ∀ q ∈ queries,
        Dns.transaction? transport q.data ≠ Dns.transaction? transport a.data) ∧
    ∀ records, r.records? d i = some records → ∃ answered rest, records = answered ++ rest ∧
      List.Forall₂ (r.ShowsAnswer e d burst) answers answered ∧
      List.Forall₂ (r.ShowsQuery e d burst) (Dns.unanswered transport queries answers) rest := by
  intro transport queries answers
  rw [records?_eq_multiplexedRecords? hp he]
  refine ⟨?_, fun records ↦ shows_of_multiplexedRecords?_dns hp hburst⟩
  rw [← not_iff_not, ← ne_eq, multiplexedRecords?_dns_ne_none_iff hp hburst]
  simp only [Dns.askedAt?_ne_none_iff, imp_and, forall_and]
  push Not
  rfl

/-- Three queries of which two have the same transaction, and two answers in another order: the
second answer goes to the first query, and the third query is not answered. -/
theorem records?_of_dns_repeated :
    let r := Dispatcher.ofSettings {}
    let first : Event := .ask 53 1 1000
    let third : Event := .ask 53 1 2500
    let answers : List Event := [.reply 53 2 0 3000, .reply 53 1 3 4000]
    let burst := ((Burst.ofEvent first 80).merge (.ask 53 2 2000)).merge third
    let d : Dialog := { request := some burst, response := Burst.ofEvents? 80 answers }
    ∃ e, r.registry.get? 2 = some e ∧ e.protocol = .dns ∧ ∃ answered rest,
      r.records? d 2 = some (answered ++ rest) ∧
      List.Forall₂ (r.ShowsAnswer e d burst) answers answered ∧
      List.Forall₂ (r.ShowsQuery e d burst) [third] rest := by
  intro r first third answers burst d
  obtain ⟨e, he, hp⟩ : ∃ e, r.registry.get? 2 = some e ∧ e.protocol = .dns := ⟨_, rfl, rfl⟩
  obtain ⟨-, hshows⟩ := records?_of_dns r he hp (show d.request = some burst from rfl)
  obtain ⟨records, hrecords⟩ : ∃ records, r.records? d 2 = some records :=
    Option.isSome_iff_exists.1 (by decide +kernel)
  obtain ⟨answered, rest, rfl, hanswered, hrest⟩ := hshows records hrecords
  have hunanswered : Dns.unanswered burst.first.transport burst.events
      (d.response.elim [] (·.events)) = [third] := by
    decide +kernel
  rw [hunanswered] at hrest
  exact ⟨e, he, hp, answered, rest, hrecords, hanswered, hrest⟩

/-- A query at the beginning of time and an answer at the end of it: the time between them is shown
as a negative number. -/
theorem dns_total_wraps :
    let r := Dispatcher.ofSettings {}
    let q : Event := .ask 53 1 1000
    let a : Event := .reply 53 1 0 18446744073709551615
    let d := Dialog.single q (some a) none 80
    a.timestamp.toNat - q.startTime = 18446744073709550615 ∧
      (r.records? d 2).map (·.map (·.gauge? Gauge.totalTime)) = some [some (-1001)] := by
  decide +kernel

end Dispatcher

end SocketWatch
