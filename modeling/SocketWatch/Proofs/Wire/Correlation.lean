import SocketWatch.Proofs.Wire.Dns
/-!
# The number that ties a response to its request

DNS, Kafka and RocketMQ number their requests, and a response repeats the number of its request.
Each has its own place for the number on the wire, and each reader its own way of comparing: DNS
looks for the query among those of the dialog, Kafka and RocketMQ compare with what was read from
the request.

What the numbers are is said here by the bytes alone (`requestNumber?`, `responseNumber?`), and what
the readers do is compared with that (`request?_number`, `response?_number`, `continued_number`). A
number passes through a label of 64 bits on its way, which changes nothing, because it was written
in 32 bits or fewer.

One case is not as the bytes say. A RocketMQ header written in JSON need not name its number, and
the reader takes it to be zero then (`Carries`).
-/

namespace SocketWatch.Wire

/-! ### Numbers on the wire -/

namespace RocketMq

/-- What a header written in JSON gives for its number: the member of that name, or the second of a
list of members. -/
def givenNumber? : Json → Option Json
  | .object members => (members.find? (·.1 = "opaque")).map (·.2)
  | .list items => items[1]?
  | _ => none

/-- The number of a frame. -/
def number? (data : List UInt8) : Option Int :=
  if uint? data 4 1 = some 1 then int? data 13 4
  else do
    let length ← uint? data 4 4
    let header ← Json.parseBytes? (← slice? data headerStart length)
    (← givenNumber? header).signed? 32

end RocketMq

namespace Protocol

/-- The label that shows the number of a request and its response. -/
def numberLabel? : Protocol → Option String
  | .dns => some Label.dnsId
  | .kafka => some Label.kafkaCorrelationId
  | .rocketmq => some Label.rocketmqOpaque
  | _ => none

/-- The number that is written in a request. -/
def requestNumber? (p : Protocol) (transport : Transport) (data : List UInt8) : Option Int :=
  match p with
  | .dns => (uint? data (if transport = .tcp then 2 else 0) 2).map Int.ofNat
  | .kafka => int? data 8 4
  | .rocketmq => RocketMq.number? data
  | _ => none

/-- The number that is written in a response. -/
def responseNumber? (p : Protocol) (transport : Transport) (data : List UInt8) : Option Int :=
  match p with
  | .dns => (uint? data (if transport = .tcp then 2 else 0) 2).map Int.ofNat
  | .kafka => int? data 4 4
  | .rocketmq => RocketMq.number? data
  | _ => none

/-- Whether bytes stand for a number: it is written in them, or it is zero and they are those of a
RocketMQ header in JSON that does not name its number. -/
def Carries (p : Protocol) (data : List UInt8) (written : Option Int) (id : Int) : Prop :=
  written = some id ∨ p = .rocketmq ∧ uint? data 4 1 = some 0 ∧ written = none ∧ id = 0

end Protocol

/-! ### Small numbers pass through labels -/

/-- Whether a number is kept by a word of 32 bits, signed or not. -/
def Small (i : Int) : Prop := -4294967296 < i ∧ i < 4294967296

theorem small_of_int? {bs : List UInt8} {start : Nat} {i : Int} (h : int? bs start 4 = some i) :
    Small i := by
  obtain ⟨n, -, rfl⟩ := Option.map_eq_some_iff.1 h
  have hlow := Int.le_bmod (x := n) (m := Word.count (8 * 4)) (by decide)
  have hhigh := Int.bmod_lt (x := n) (m := Word.count (8 * 4)) (by decide)
  have hcount : Word.count (8 * 4) = 4294967296 := by decide
  simp only [Small, Word.signed, hcount] at *
  omega

theorem small_of_fitsSigned {i : Int} (h : Word.fitsSigned 32 i = true) : Small i := by
  have hcount : Word.count (32 - 1) = 2147483648 := by decide
  simp only [Word.fitsSigned, hcount, Bool.and_eq_true, decide_eq_true_eq] at h
  simp only [Small]
  omega

theorem small_of_lt {n : Nat} (h : n < 65536) : Small n := by
  simp only [Small]
  omega

theorem Small.toInt_ofInt {i : Int} (h : Small i) : (Int64.ofInt i).toInt = i :=
  Int64.toInt_ofInt_of_le (by have := h.1; omega) (by have := h.2; omega)

theorem Small.ofInt_inj {i j : Int} (hi : Small i) (hj : Small j)
    (h : Int64.ofInt i = Int64.ofInt j) : i = j := by
  rw [← hi.toInt_ofInt, h, hj.toInt_ofInt]

/-! ### DNS -/

namespace Dns

variable {m m' : Message}

theorem request?_number (h : request? m = some m') :
    ∃ id : Nat, id < 65536 ∧ uint? m.data (if m.transport = .tcp then 2 else 0) 2 = some id ∧
      m'.attributes.find? Label.dnsId = some (.int (Int64.ofInt id)) := by
  obtain ⟨h, hh, -, -, hid, -⟩ := request?_spec h
  exact ⟨h.id, id_lt hh, (header?_fields hh).1, hid⟩

theorem response?_number (h : response? m = some m') :
    ∃ id : Nat, id < 65536 ∧ uint? m.data (if m.transport = .tcp then 2 else 0) 2 = some id ∧
      m'.attributes.find? Label.dnsId = some (.int (Int64.ofInt id)) := by
  obtain ⟨h, hh, -, -, hid, -⟩ := response?_spec h
  exact ⟨h.id, id_lt hh, (header?_fields hh).1, hid⟩

/-- The query that is found for a response has its transaction. -/
theorem getInt_of_matching? {requests : List Message} {q : Message} {i : Nat}
    (h : matching? requests m' = some i) (hi : requests[i]? = some q) :
    q.attributes.getInt Label.dnsId = m'.attributes.getInt Label.dnsId := by
  obtain ⟨hlt, hid, -⟩ := List.findIdx?_eq_some_iff_getElem.1 h
  obtain ⟨_, rfl⟩ := List.getElem?_eq_some_iff.1 hi
  exact of_decide_eq_true hid

end Dns

/-! ### Kafka -/

namespace Kafka

variable {m m' : Message}

theorem request?_number (h : request? m = some m') :
    ∃ id, int? m.data 8 4 = some id ∧
      m'.attributes.find? Label.kafkaCorrelationId = some (.int (Int64.ofInt id)) := by
  obtain ⟨length, -, h⟩ := Option.bind_eq_some_iff.1 h
  obtain ⟨apiKey, -, h⟩ := Option.bind_eq_some_iff.1 h
  obtain ⟨apiVersion, -, h⟩ := Option.bind_eq_some_iff.1 h
  obtain ⟨id, hid, h⟩ := Option.bind_eq_some_iff.1 h
  obtain ⟨clientLength, -, h⟩ := Option.bind_eq_some_iff.1 h
  refine ⟨id, hid, ?_⟩
  simp only at h
  split at h
  · cases h
  · cases h
    rw [Message.putInt, Attributes.find?_putInt, if_pos rfl]

/-- A response is read only where it has the number that was read from the request. -/
theorem response?_number {id : Int} (hsmall : Small id)
    (hm : m.attributes.find? Label.kafkaCorrelationId = some (.int (Int64.ofInt id)))
    (h : response? m = some m') :
    int? m.data 4 4 = some id ∧
      m'.attributes.find? Label.kafkaCorrelationId = some (.int (Int64.ofInt id)) := by
  obtain ⟨length, -, h⟩ := Option.bind_eq_some_iff.1 h
  obtain ⟨id', hid', h⟩ := Option.bind_eq_some_iff.1 h
  have hcontains : m.attributes.contains Label.kafkaCorrelationId = true := by
    rw [Fields.contains, hm]
    rfl
  rw [hcontains, Dns.getInt_of_find? hm, hsmall.toInt_ofInt] at h
  split at h
  · cases h
  · split at h
    · cases h
    · rename_i hsame
      obtain rfl : id = id' := by simpa using hsame
      cases h
      exact ⟨hid', by rw [Message.putInt, Attributes.find?_putInt, if_pos rfl]⟩

end Kafka

/-! ### RocketMQ -/

namespace RocketMq

variable {m m' : Message}

/-- The member of a header that is read for its number is the one that is given for it. -/
theorem find?_eq_givenNumber? {j : Json} {members : Members Json}
    (h : Json.source.record? Header.memberNames j = some members) :
    members.find? "opaque" = givenNumber? j := by
  unfold Source.record? at h
  cases j with
  | object given =>
    simp only [Json.source, Json.members?] at h
    split at h
    · cases h
      have hknown : ∀ e : String × Json,
          decide (Header.memberNames.contains e.1 = true ∧ decide (e.1 = "opaque") = true) =
            decide (e.1 = "opaque") := by
        intro e
        by_cases he : e.1 = "opaque"
        · rw [he]
          decide
        · simp [he]
      simp only [Members.find?, givenNumber?, List.find?_filter, hknown]
    · cases h
  | list items =>
    simp only [Json.source, Json.members?, Json.items?] at h
    obtain ⟨_, hitems, h⟩ := Option.bind_eq_some_iff.1 h
    cases hitems
    simp only [Bool.true_and, decide_eq_true_eq] at h
    split at h
    · cases h
    · cases h
      cases items with
      | nil => rfl
      | cons first rest => cases rest <;> rfl
  | _ => cases h

/-- **A header has the number of its frame**, or none is given and it is zero. -/
theorem ofFrame?_number {data : List UInt8} {h : Header} (hh : Header.ofFrame? data = some h) :
    Protocol.rocketmq.Carries data (number? data) h.opaqueId ∧ Small h.opaqueId := by
  unfold Header.ofFrame? at hh
  split at hh
  · cases hh
  · split at hh
    · rename_i hjson
      obtain ⟨length, hlength, hh⟩ := Option.bind_eq_some_iff.1 hh
      obtain ⟨bytes, hbytes, hh⟩ := Option.bind_eq_some_iff.1 hh
      obtain ⟨j, hj, hh⟩ := Option.bind_eq_some_iff.1 hh
      obtain ⟨members, hmembers, hh⟩ := Option.bind_eq_some_iff.1 hh
      obtain ⟨code, -, hh⟩ := Option.bind_eq_some_iff.1 hh
      obtain ⟨id, hid, hh⟩ := Option.bind_eq_some_iff.1 hh
      obtain ⟨remark, -, hh⟩ := Option.bind_eq_some_iff.1 hh
      obtain ⟨extFields, -, hh⟩ := Option.bind_eq_some_iff.1 hh
      cases hh
      have hnumber : number? data = (givenNumber? j).bind (Json.signed? 32) := by
        simp [number?, hjson, hlength, hbytes, hj]
      rw [Members.withDefault, find?_eq_givenNumber? hmembers] at hid
      cases hgiven : givenNumber? j with
      | none =>
        rw [hgiven] at hid hnumber
        cases hid
        exact ⟨.inr ⟨rfl, hjson, hnumber, rfl⟩, small_of_lt (n := 0) (by decide)⟩
      | some doc =>
        rw [hgiven] at hid hnumber
        refine ⟨.inl (hnumber.trans hid), ?_⟩
        exact small_of_fitsSigned (Option.filter_eq_some_iff.1 hid).2
    · rename_i hbinary
      obtain ⟨code, -, hh⟩ := Option.bind_eq_some_iff.1 hh
      obtain ⟨id, hid, hh⟩ := Option.bind_eq_some_iff.1 hh
      obtain ⟨remarkLength, -, hh⟩ := Option.bind_eq_some_iff.1 hh
      obtain ⟨extLength, -, hh⟩ := Option.bind_eq_some_iff.1 hh
      cases hh
      refine ⟨.inl ?_, small_of_int? hid⟩
      rw [number?, if_pos hbinary, hid]
    · cases hh

theorem request?_number (h : request? m = some m') :
    ∃ id, Protocol.rocketmq.Carries m.data (number? m.data) id ∧ Small id ∧
      m'.attributes.find? Label.rocketmqOpaque = some (.int (Int64.ofInt id)) := by
  obtain ⟨header, hheader, h⟩ := Option.bind_eq_some_iff.1 h
  obtain ⟨hcarries, hsmall⟩ := ofFrame?_number hheader
  cases h
  refine ⟨header.opaqueId, hcarries, hsmall, ?_⟩
  rw [Message.putText, Attributes.find?_putText, if_neg (by decide), Message.putInt,
    Attributes.find?_putInt, if_pos rfl]

/-- A response is read only where it has the number that was read from the request. -/
theorem response?_number {id : Int} (hsmall : Small id)
    (hm : m.attributes.find? Label.rocketmqOpaque = some (.int (Int64.ofInt id)))
    (h : response? m = some m') :
    Protocol.rocketmq.Carries m.data (number? m.data) id ∧
      m'.attributes.find? Label.rocketmqOpaque = some (.int (Int64.ofInt id)) := by
  obtain ⟨header, hheader, h⟩ := Option.bind_eq_some_iff.1 h
  obtain ⟨hcarries, -⟩ := ofFrame?_number hheader
  rw [Dns.getInt_of_find? hm, hsmall.toInt_ofInt] at h
  split at h
  · cases h
  · rename_i hsame
    obtain ⟨-, rfl⟩ : _ ∧ id = header.opaqueId := by simpa using hsame
    refine ⟨hcarries, hm ▸ ?_⟩
    cases h
    split
    · rw [Dns.find?_protocolError (by decide), Message.putText, Attributes.find?_putText,
        if_neg (by decide), Message.putInt, Attributes.find?_putInt, if_neg (by decide)]
      rfl
    · rw [Message.putInt, Attributes.find?_putInt, if_neg (by decide)]
      rfl

end RocketMq

/-! ### All three -/

namespace Protocol

variable {p : Protocol} {transport : Transport} {data : List UInt8} {label : String}

/-- **A request that is read carries a number**, and the label shows it. -/
theorem request?_number (hp : p.numberLabel? = some label) {m : Message}
    (h : p.request? { data, transport } = some m) :
    ∃ id, p.Carries data (p.requestNumber? transport data) id ∧ Small id ∧
      m.attributes.find? label = some (.int (Int64.ofInt id)) := by
  cases p <;> cases hp
  · obtain ⟨id, hlt, hid, hfind⟩ := Dns.request?_number h
    exact ⟨id, .inl (congrArg (Option.map Int.ofNat) hid), small_of_lt hlt, hfind⟩
  · obtain ⟨id, hid, hfind⟩ := Kafka.request?_number h
    exact ⟨id, .inl hid, small_of_int? hid, hfind⟩
  · exact RocketMq.request?_number h

/-- **A response that is read after its request carries the same number**, and the label still shows
it. -/
theorem continued_number (hp : p.numberLabel? = some label) (hwhole : p.isMultiplexed = false)
    {id : Int} (hsmall : Small id) {a : Attributes}
    (ha : a.find? label = some (.int (Int64.ofInt id))) {m' : Message}
    (h : p.response? { data, transport, attributes := a } = some m') :
    p.Carries data (p.responseNumber? transport data) id ∧
      m'.attributes.find? label = some (.int (Int64.ofInt id)) := by
  cases p <;> cases hp
  · cases hwhole
  · obtain ⟨hid, hfind⟩ := Kafka.response?_number hsmall ha h
    exact ⟨.inl hid, hfind⟩
  · exact RocketMq.response?_number hsmall ha h

/-- **A response that is paired with a request carries the same number**, and its label shows it. -/
theorem paired_number (hp : p.numberLabel? = some label) {id : Int} (hsmall : Small id)
    {m m' : Message} (hm : m.attributes.find? label = some (.int (Int64.ofInt id)))
    (h : p.response? { data, transport } = some m') {messages : List Message} {i : Nat}
    (hi : p.matching? messages m' = some i) (hmem : messages[i]? = some m) :
    p.Carries data (p.responseNumber? transport data) id ∧
      m'.attributes.find? label = some (.int (Int64.ofInt id)) := by
  cases p <;> cases hp
  · obtain ⟨id', hlt, hid', hfind⟩ := Dns.response?_number h
    have hsame := Dns.getInt_of_matching? hi hmem
    rw [Dns.getInt_of_find? hm, Dns.getInt_of_find? hfind] at hsame
    obtain rfl : id = id' := hsmall.ofInt_inj (small_of_lt hlt) hsame
    exact ⟨.inl (congrArg (Option.map Int.ofNat) hid'), hfind⟩
  · cases hi
  · cases hi

end Protocol

end SocketWatch.Wire
