import SocketWatch.Dispatch.Basic
import SocketWatch.Proofs.Dialog.Built
import SocketWatch.Proofs.Dialog.Report
import SocketWatch.Proofs.Traverse
/-!
# What one protocol finds in a dialog

A protocol reads a dialog as a whole, or takes it apart into single requests and their responses.
Either way every record is about an **exchange** of the dialog, the whole of it or one of the parts,
and shows what the protocol has **found** in that exchange: what it read from the request, and from
the response if there is one (`Reading`; where it does not matter how the two were brought together,
`Finding` is enough). What is found accuses or is silent, and it accuses only where the
reader of responses did (`Finding.silent_or_accuses`), because nothing else in it could.

A dialog that is taken apart has as many records as it has requests to take, at least one
(`records?_ne_nil`); that no request is lost between those that were answered and the others is not
obvious, since they are told apart by position.
-/

namespace SocketWatch

open Wire (Message Protocol)

/-- The exchanges that the records of a dialog are about: the dialog as a whole, or one of its
requests with one of its responses or with none. -/
inductive Dialog.IsExchange (d : Dialog) : Dialog → Prop where
  /-- The whole. -/
  | whole : d.IsExchange d
  /-- One request that was not answered. -/
  | asked {requests : Burst} (hd : d.request = some requests) {q : Event}
      (hq : q ∈ requests.events) : d.IsExchange (.single q none d.natTarget requests.limit)
  /-- One request and its response. -/
  | answered {requests responses : Burst} (hd : d.request = some requests)
      (hd' : d.response = some responses) {q a : Event} (hq : q ∈ requests.events)
      (ha : a ∈ responses.events) :
    d.IsExchange (.single q (some a) d.natTarget requests.limit)

/-- The request of an exchange is that of the dialog, or begins with an event that it kept. -/
theorem Dialog.IsExchange.request_eq_or_mem {d u : Dialog} (hu : d.IsExchange u) {b : Burst}
    (hb : u.request = some b) :
    ∃ requests, d.request = some requests ∧ (b = requests ∨ b.first ∈ requests.events) := by
  cases hu with
  | whole => exact ⟨b, hb, .inl rfl⟩
  | @asked requests hd q hq =>
    obtain rfl : Burst.ofEvent q requests.limit = b := Option.some.inj hb
    exact ⟨requests, hd, .inr hq⟩
  | @answered requests _ hd _ q _ hq =>
    obtain rfl : Burst.ofEvent q requests.limit = b := Option.some.inj hb
    exact ⟨requests, hd, .inr hq⟩

/-- What stands behind NAT stands there for all exchanges of a dialog. -/
theorem Dialog.IsExchange.natTarget_eq {d u : Dialog} (hu : d.IsExchange u) :
    u.natTarget = d.natTarget := by
  cases hu <;> rfl

/-! ### Silence and accusation -/

namespace Attributes

variable {a b : Attributes}

theorem Silent.overlay (ha : a.Silent) (hb : b.Silent) : Silent (a.overlay b) := fun name hname ↦ by
  rw [Fields.find?_overlay, ha name hname, hb name hname]
  rfl

theorem Accuses.overlay (ha : a.Silent) (hb : b.Accuses) : Accuses (a.overlay b) where
  protocol := by rw [Fields.find?_overlay, hb.protocol, ha _ (by decide)]; rfl
  flag := by rw [Fields.find?_overlay, hb.flag]; rfl
  kind := by rw [Fields.find?_overlay, hb.kind]; rfl

end Attributes

theorem Wire.Message.Keeps.silent {m m' : Message} (h : m.Keeps m') (hm : m.attributes.Silent) :
    m'.attributes.Silent := fun name hname ↦ by
  rw [h name (Label.notMem_ofReaders hname), hm name hname]

/-- An error that the protocol reports is all that is said. -/
theorem Wire.Message.Keeps.accuses {m m' : Message} (h : m.Keeps m') (hm : m.attributes.Silent) :
    m'.protocolError.attributes.Accuses := by
  obtain ⟨hothers, hflag, hkind⟩ := Message.protocolError_spec m'
  exact ⟨(hothers _ (by decide) (by decide)).trans (h.silent hm _ (by decide)), hflag, hkind⟩

theorem Wire.Message.Classifies.silent_or_accuses {m m' : Message} (h : m.Classifies m')
    (hm : m.attributes.Silent) : m'.attributes.Silent ∨ m'.attributes.Accuses := by
  rcases h with hkeeps | ⟨hothers, hflag, hkind⟩
  · exact .inl (hkeeps.silent hm)
  · refine .inr ⟨?_, hflag, hkind⟩
    rw [hothers _ (by decide) (by decide) (by decide), hm _ (by decide)]

namespace Wire.Protocol

variable {p : Protocol} {u : Dialog} {found : Attributes}

/-- What a protocol finds in an exchange that it recognises. -/
inductive Finding (p : Protocol) (u : Dialog) : Attributes → Prop where
  /-- It reads the request, and there is no response. -/
  | asked {q : Burst} (hq : u.request = some q) (ha : u.response = none) {transport : Transport}
      {m : Message} (hm : p.request? { data := q.data, transport } = some m) :
    Finding p u m.attributes
  /-- It goes on from the request to the response. -/
  | continued {q a : Burst} (hq : u.request = some q) (ha : u.response = some a)
      {transport : Transport} {m m' : Message}
      (hm : p.request? { data := q.data, transport } = some m)
      (hm' : p.response? { data := a.data, transport, attributes := m.attributes } = some m') :
    Finding p u m'.attributes
  /-- It reads both by themselves, and the response has the last word. -/
  | paired {q a : Burst} (hq : u.request = some q) (ha : u.response = some a)
      {transport : Transport} {m m' : Message}
      (hm : p.request? { data := q.data, transport } = some m)
      (hm' : p.response? { data := a.data, transport } = some m') :
    Finding p u (m.attributes.overlay m'.attributes)

/-- How a protocol comes to what it finds in an exchange, on a transport. One that takes dialogs
apart reads the response by itself and looks for its request; any other goes on from the request. -/
inductive Reading (p : Protocol) (transport : Transport) (u : Dialog) : Attributes → Prop where
  /-- It reads the request, and there is no response. -/
  | asked {q : Burst} (hq : u.request = some q) (ha : u.response = none) {m : Message}
      (hm : p.request? { data := q.data, transport } = some m) : Reading p transport u m.attributes
  /-- It goes on from the request to the response. -/
  | continued (hp : p.isMultiplexed = false) {q a : Burst} (hq : u.request = some q)
      (ha : u.response = some a) {m m' : Message}
      (hm : p.request? { data := q.data, transport } = some m)
      (hm' : p.response? { data := a.data, transport, attributes := m.attributes } = some m') :
    Reading p transport u m'.attributes
  /-- It reads both by themselves, and finds this request to be the one that is answered. -/
  | paired (hp : p.isMultiplexed = true) {q a : Burst} (hq : u.request = some q)
      (ha : u.response = some a) {m m' : Message}
      (hm : p.request? { data := q.data, transport } = some m)
      (hm' : p.response? { data := a.data, transport } = some m')
      {messages : List Message} {i : Nat} (hi : p.matching? messages m' = some i)
      (hmem : messages[i]? = some m) :
    Reading p transport u (m.attributes.overlay m'.attributes)

theorem Reading.finding {transport : Transport} (h : p.Reading transport u found) :
    p.Finding u found := by
  cases h with
  | asked hq ha hm => exact .asked hq ha hm
  | continued _ hq ha hm hm' => exact .continued hq ha hm hm'
  | paired _ hq ha hm hm' => exact .paired hq ha hm hm'

/-- The request was read. -/
theorem Finding.exists_request? (h : p.Finding u found) {q : Burst} (hq : u.request = some q) :
    ∃ transport, (p.request? { data := q.data, transport }).isSome = true := by
  cases h with
  | asked hq' _ hm | continued hq' _ hm | paired hq' _ hm =>
    obtain rfl := Option.some.inj (hq.symm.trans hq')
    exact ⟨_, Option.isSome_of_eq_some hm⟩

/-- The response was read, where there is one. -/
theorem Finding.exists_response? (h : p.Finding u found) {a : Burst} (ha : u.response = some a) :
    ∃ m : Message, m.data = a.data ∧ (p.response? m).isSome = true := by
  cases h with
  | asked _ ha' =>
    rw [ha] at ha'
    cases ha'
  | continued _ ha' _ hm | paired _ ha' _ hm =>
    obtain rfl := Option.some.inj (ha.symm.trans ha')
    exact ⟨_, rfl, Option.isSome_of_eq_some hm⟩

/-- The protocol reports an error in the response of an exchange: its reader, given the response
and nothing that speaks of errors, adds one. -/
def Faults (p : Protocol) (u : Dialog) : Prop :=
  ∃ a m m', u.response = some a ∧ m.data = a.data ∧ m.attributes.Silent ∧
    p.response? m = some m' ∧ m'.attributes.Accuses

/-- The generic protocol and Kafka report no errors. -/
theorem Faults.ne (h : p.Faults u) : p ≠ .generic ∧ p ≠ .kafka := by
  obtain ⟨a, m, m', -, -, hsilent, hread, haccuses⟩ := h
  refine ⟨fun hp ↦ ?_, fun hp ↦ ?_⟩
  · exact haccuses.not_silent ((keeps_of_response? (.inl hp) hread).silent hsilent)
  · exact haccuses.not_silent ((keeps_of_response? (.inr hp) hread).silent hsilent)

theorem Faults.response_ne_none (h : p.Faults u) : u.response ≠ none := by
  obtain ⟨a, _, _, ha, _⟩ := h
  rw [ha]
  exact Option.some_ne_none a

/-- **What is found accuses only where the reader of the response did.** -/
theorem Finding.silent_or_accuses (h : p.Finding u found) :
    found.Silent ∨ found.Accuses ∧ p.Faults u := by
  cases h with
  | asked _ _ hm => exact .inl ((keeps_of_request? hm).silent Attributes.silent_empty)
  | @continued q a _ ha transport m m' hm hm' =>
    have hasked : m.attributes.Silent := (keeps_of_request? hm).silent Attributes.silent_empty
    rcases (classifies_of_response? hm').silent_or_accuses hasked with h | h
    · exact .inl h
    · exact .inr ⟨h, a, { data := a.data, transport, attributes := m.attributes }, m', ha, rfl,
        hasked, hm', h⟩
  | @paired q a _ ha transport m m' hm hm' =>
    have hasked : m.attributes.Silent := (keeps_of_request? hm).silent Attributes.silent_empty
    rcases (classifies_of_response? hm').silent_or_accuses Attributes.silent_empty with h | h
    · exact .inl (hasked.overlay h)
    · exact .inr ⟨h.overlay hasked, a, _, m', ha, rfl, Attributes.silent_empty, hm', h⟩

/-- **What is found is said in the labels of the readers**, apart from an error. -/
theorem Finding.find?_eq_none (h : p.Finding u found) {name : String}
    (hname : name ∉ Label.ofReaders) (hflag : name ≠ Label.isError)
    (hkind : name ≠ Label.errorType) : found.find? name = none := by
  cases h with
  | asked _ _ hm => exact keeps_of_request? hm name hname
  | continued _ _ hm hm' =>
    rw [(classifies_of_response? hm').others hname hflag hkind]
    exact keeps_of_request? hm name hname
  | paired _ _ hm hm' =>
    rw [Fields.find?_overlay, (classifies_of_response? hm').others hname hflag hkind,
      keeps_of_request? hm name hname]
    rfl

end Wire.Protocol

namespace Dispatcher

variable {r : Dispatcher} {e : Registration} {d : Dialog} {records : List Record} {x : Record}

/-! ### The records of an exchange -/

/-- A record that comes from reading an exchange of a dialog. -/
def Reads (r : Dispatcher) (e : Registration) (d : Dialog) (x : Record) : Prop :=
  ∃ burst u found, d.request = some burst ∧ d.IsExchange u ∧
    e.protocol.Reading burst.first.transport u found ∧
      u.exchangeRecord? r.settings e.protocol.key found e.payloadLength = some x

/-- A record that shows what a registered protocol found in an exchange of a dialog. -/
def Shows (r : Dispatcher) (e : Registration) (d : Dialog) (x : Record) : Prop :=
  ∃ u found, d.IsExchange u ∧ e.protocol.Finding u found ∧
    u.exchangeRecord? r.settings e.protocol.key found e.payloadLength = some x

/-- A dialog that is read as a whole gives one record. -/
theorem wholeRecords?_eq_some (hp : e.protocol.isMultiplexed = false)
    (h : r.wholeRecords? e d = some records) :
    ∃ x burst found, d.request = some burst ∧ e.protocol.Reading burst.first.transport d found ∧
      d.exchangeRecord? r.settings e.protocol.key found e.payloadLength = some x ∧
      records = [x] := by
  unfold wholeRecords? at h
  obtain ⟨q, hq, h⟩ := Option.bind_eq_some_iff.1 h
  obtain ⟨m, hm, h⟩ := Option.bind_eq_some_iff.1 h
  cases ha : d.response with
  | none =>
    simp only [ha, Option.bind_eq_bind, Option.bind_some, Option.bind_eq_some_iff,
      Option.some.injEq] at h
    obtain ⟨x, hx, rfl⟩ := h
    exact ⟨x, q, m.attributes, hq, .asked hq ha hm, hx, rfl⟩
  | some a =>
    simp only [ha, Option.bind_eq_bind, Option.bind_some, Option.bind_eq_some_iff,
      Option.some.injEq] at h
    obtain ⟨m', hm', x, hx, rfl⟩ := h
    exact ⟨x, q, m'.attributes, hq, .continued hp hq ha hm hm', hx, rfl⟩

/-- A response that was paired with a request. -/
theorem answer?_eq_some {p : Protocol} {transport : Transport} {messages : List Message}
    {response : Event} {answer : Nat × Event × Attributes}
    (h : answer? p transport messages response = some answer) :
    ∃ m i request, p.response? { data := response.data, transport } = some m ∧
      p.matching? messages m = some i ∧ messages[i]? = some request ∧
      answer = (i, response, request.attributes.overlay m.attributes) := by
  obtain ⟨m, hm, h⟩ := Option.bind_eq_some_iff.1 h
  obtain ⟨i, hi, h⟩ := Option.bind_eq_some_iff.1 h
  obtain ⟨request, hrequest, h⟩ := Option.bind_eq_some_iff.1 h
  exact ⟨m, i, request, hm, hi, hrequest, (Option.some.inj h).symm⟩

theorem mem_unitRecords {limit : Nat} {q : Event} {a : Option Event} {found : Attributes} :
    x ∈ r.unitRecords e d limit q a found ↔
      (Dialog.single q a d.natTarget limit).exchangeRecord? r.settings e.protocol.key found
        e.payloadLength = some x :=
  Option.mem_toList

theorem unitRecords_ne_nil (limit : Nat) (q : Event) (a : Option Event) (found : Attributes) :
    r.unitRecords e d limit q a found ≠ [] :=
  List.cons_ne_nil _ _

/-- How a dialog that is taken apart was read: the requests, which of them each response answers,
and the records of the two kinds of request. -/
theorem multiplexedRecords?_eq_some (h : r.multiplexedRecords? e d = some records) :
    ∃ burst messages answers answered, d.request = some burst ∧
      burst.events.mapM (fun q ↦ e.protocol.request?
        { data := q.data, transport := burst.first.transport }) = some messages ∧
      (d.response.elim [] (·.events)).mapM
        (answer? e.protocol burst.first.transport messages) = some answers ∧
      List.Forall₂ (fun answer unit ↦ ∃ q, burst.events[answer.1]? = some q ∧
        r.unitRecords e d burst.limit q (some answer.2.1) answer.2.2 = unit) answers answered ∧
      records = answered.flatten ++ ((burst.events.zip messages).zipIdx.filter fun u ↦
        !(answers.map (·.1)).contains u.2).flatMap fun u ↦
          r.unitRecords e d burst.limit u.1.1 none u.1.2.attributes := by
  obtain ⟨burst, hburst, h⟩ := Option.bind_eq_some_iff.1 h
  obtain ⟨messages, hmessages, h⟩ := Option.bind_eq_some_iff.1 h
  obtain ⟨answers, hanswers, h⟩ := Option.bind_eq_some_iff.1 h
  obtain ⟨answered, hanswered, h⟩ := Option.bind_eq_some_iff.1 h
  refine ⟨burst, messages, answers, answered, hburst, hmessages, hanswers, ?_,
    (Option.some.inj h).symm⟩
  refine (mapM_eq_some_iff.1 hanswered).imp fun answer unit hunit ↦ ?_
  obtain ⟨q, hq, hunit⟩ := Option.bind_eq_some_iff.1 hunit
  exact ⟨q, hq, Option.some.inj hunit⟩

theorem reads_of_multiplexedRecords? (hp : e.protocol.isMultiplexed = true)
    (h : r.multiplexedRecords? e d = some records) (hx : x ∈ records) : r.Reads e d x := by
  obtain ⟨burst, messages, answers, answered, hburst, hmessages, hanswers, hanswered, rfl⟩ :=
    multiplexedRecords?_eq_some h
  rcases List.mem_append.1 hx with hx | hx
  · obtain ⟨unit, hunit, hx⟩ := List.mem_flatten.1 hx
    obtain ⟨⟨i, a, found⟩, hanswer, q, hq, rfl⟩ := exists_mem_of_forall₂ hanswered hunit
    obtain ⟨response, hresponse, hread⟩ := mem_of_mapM hanswers hanswer
    obtain ⟨m', j, m, hm', hj, hm, heq⟩ := answer?_eq_some hread
    obtain ⟨rfl, rfl, rfl⟩ : i = j ∧ a = response ∧ found = m.attributes.overlay m'.attributes := by
      simpa using heq
    cases hresponses : d.response with
    | none =>
      rw [hresponses] at hresponse
      exact absurd hresponse List.not_mem_nil
    | some responses =>
      rw [hresponses] at hresponse
      refine ⟨burst, _, _, hburst, .answered hburst hresponses (List.mem_of_getElem? hq) hresponse,
        ?_, mem_unitRecords.1 hx⟩
      exact .paired hp (q := .ofEvent q burst.limit) (a := .ofEvent a burst.limit) rfl rfl
        (getElem?_of_mapM hmessages hq hm) hm' hj hm
  · obtain ⟨⟨⟨q, m⟩, i⟩, hmem, hx⟩ := List.mem_flatMap.1 hx
    have hget := List.mem_zipIdx_iff_getElem?.1 (List.mem_filter.1 hmem).1
    obtain ⟨hq, hm⟩ := List.getElem?_zip_eq_some.1 hget
    refine ⟨burst, _, _, hburst, .asked hburst (List.mem_of_getElem? hq), ?_,
      mem_unitRecords.1 hx⟩
    exact .asked (q := .ofEvent q burst.limit) rfl rfl (getElem?_of_mapM hmessages hq hm)

/-- **The records of a protocol come from reading exchanges of the dialog.** -/
theorem reads_of_records? {i : Nat} (he : r.registry.get? i = some e)
    (h : r.records? d i = some records) (hx : x ∈ records) : r.Reads e d x := by
  rw [records?, he] at h
  cases hp : e.protocol.isMultiplexed with
  | true => exact reads_of_multiplexedRecords? hp (by simpa [hp] using h) hx
  | false =>
    obtain ⟨y, burst, found, hburst, hfound, hy, rfl⟩ :=
      wholeRecords?_eq_some hp (by simpa [hp] using h)
    exact List.mem_singleton.1 hx ▸ ⟨burst, d, found, hburst, .whole, hfound, hy⟩

/-- **The records of a protocol show what it found in exchanges of the dialog.** -/
theorem shows_of_records? {i : Nat} (he : r.registry.get? i = some e)
    (h : r.records? d i = some records) (hx : x ∈ records) : r.Shows e d x := by
  obtain ⟨_, u, found, -, hu, hreading, hrecord⟩ := reads_of_records? he h hx
  exact ⟨u, found, hu, hreading.finding, hrecord⟩

/-! ### There is a record -/

theorem multiplexedRecords?_ne_nil (hd : d.Built) (h : r.multiplexedRecords? e d = some records) :
    records ≠ [] := by
  obtain ⟨burst, messages, answers, answered, hburst, hmessages, -, hanswered, rfl⟩ :=
    multiplexedRecords?_eq_some h
  intro hnil
  obtain ⟨hanswered_nil, hrest⟩ := List.append_eq_nil_iff.1 hnil
  cases hanswered with
  | nil =>
    -- nothing was answered, so the request that began the burst was not
    obtain ⟨i, hi, hfirst⟩ := List.getElem_of_mem (hd.first_mem_events (p := .request) hburst)
    have hlength := (mapM_eq_some_iff.1 hmessages).length_eq
    have hmem : ((burst.first, messages[i]), i) ∈ (burst.events.zip messages).zipIdx := by
      rw [List.mem_zipIdx_iff_getElem?, List.getElem?_zip_eq_some, ← hfirst]
      exact ⟨List.getElem?_eq_getElem hi, List.getElem?_eq_getElem _⟩
    have hnone := List.flatMap_eq_nil_iff.1 hrest ((burst.first, messages[i]), i)
      (List.mem_filter.2 ⟨hmem, rfl⟩)
    exact unitRecords_ne_nil _ _ _ _ hnone
  | cons hunit =>
    obtain ⟨q, -, rfl⟩ := hunit
    rw [List.flatten_cons] at hanswered_nil
    exact unitRecords_ne_nil _ _ _ _ (List.append_eq_nil_iff.1 hanswered_nil).1

/-- **A protocol that recognises a dialog gives records of it.** -/
theorem records?_ne_nil (hd : d.Built) {i : Nat} (h : r.records? d i = some records) :
    records ≠ [] := by
  obtain ⟨e, -, h⟩ := Option.bind_eq_some_iff.1 h
  split at h
  · exact multiplexedRecords?_ne_nil hd h
  · rename_i hp
    obtain ⟨y, -, -, -, -, -, rfl⟩ := wholeRecords?_eq_some (by simpa using hp) h
    exact List.cons_ne_nil y []

end Dispatcher

end SocketWatch
