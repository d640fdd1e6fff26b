import Mathlib.Data.List.Nodup
import SocketWatch.Proofs.Wire.Bytes
import SocketWatch.Proofs.Wire.Classification
/-!
# What the readers make of DNS messages

A DNS message that is read carries its transaction, and an answer its outcome, as they stand in the
header (`request?_spec`, `response?_spec`). The pairing of answers with queries goes by the
transaction alone, so it finds the query that has it, where no other has (`matching?_eq_some`).

A DNS message may be offered to other readers first. HTTP does not take it for a response, and MySQL
not for a command, because the bytes that these look at are bytes of the header that a DNS message
cannot have. HTTP may take it for a request, though: nothing in a query forbids a transaction and
flags that spell a method.
-/

namespace SocketWatch.Wire

namespace Dns

variable {m m' : Message} {h : Header}

/-! ### The header -/

theorem isResponse_iff : h.isResponse = true ↔ h.flags / 0x8000 % 2 = 1 :=
  decide_eq_true_iff

theorem isPlausible_iff : h.isPlausible = true ↔ h.questions ≠ 0 ∧ h.records ≤ maxRecords := by
  simp [Header.isPlausible]

theorem header?_fields {data : List UInt8} {start : Nat} (hh : header? data start = some h) :
    uint? data start 2 = some h.id ∧ uint? data (start + 2) 2 = some h.flags ∧
      uint? data (start + 4) 2 = some h.questions := by
  obtain ⟨id, hid, hh⟩ := Option.bind_eq_some_iff.1 hh
  obtain ⟨flags, hflags, hh⟩ := Option.bind_eq_some_iff.1 hh
  obtain ⟨questions, hquestions, hh⟩ := Option.bind_eq_some_iff.1 hh
  obtain ⟨answers, -, hh⟩ := Option.bind_eq_some_iff.1 hh
  obtain ⟨authorities, -, hh⟩ := Option.bind_eq_some_iff.1 hh
  obtain ⟨additionals, -, hh⟩ := Option.bind_eq_some_iff.1 hh
  cases hh
  exact ⟨hid, hflags, hquestions⟩

theorem id_lt {data : List UInt8} {start : Nat} (hh : header? data start = some h) :
    h.id < 65536 := by
  obtain ⟨a, b, -, -, hid⟩ := uint?_two (header?_fields hh).1
  have ha := a.toNat_lt
  have hb := b.toNat_lt
  omega

/-- The byte behind the transaction has the mark of a response. -/
theorem byte_of_isResponse {data : List UInt8} (hh : header? data 0 = some h)
    (hresponse : h.isResponse = true) : ∃ b, data[2]? = some b ∧ 128 ≤ b.toNat := by
  obtain ⟨b, c, hb, -, hflags⟩ := uint?_two (header?_fields hh).2.1
  have hmark := isResponse_iff.1 hresponse
  have hb' := b.toNat_lt
  have hc := c.toNat_lt
  exact ⟨b, hb, by omega⟩

/-- There are too few questions for two bytes. -/
theorem byte_of_isPlausible {data : List UInt8} (hh : header? data 0 = some h)
    (hfew : h.isPlausible = true) : data[4]? = some 0 := by
  obtain ⟨b, c, hb, -, hquestions⟩ := uint?_two (header?_fields hh).2.2
  have hle := (isPlausible_iff.1 hfew).2
  simp only [Header.records, maxRecords] at hle
  have hzero : b = 0 := UInt8.toNat_inj.1 (by rw [UInt8.toNat_zero]; omega)
  rw [hb, hzero]

/-! ### Messages -/

/-- An error that the protocol reports changes no other label. -/
theorem find?_protocolError {name : String} (hname : name ∉ Label.classifying) (m : Message) :
    m.protocolError.attributes.find? name = m.attributes.find? name := by
  have hflag : Label.isError ≠ name := fun heq ↦ hname (heq ▸ by decide)
  have hkind : Label.errorType ≠ name := fun heq ↦ hname (heq ▸ by decide)
  rw [Message.protocolError, Message.putInt, Attributes.find?_putInt, if_neg hkind,
    Message.putBool, Attributes.find?_putBool, if_neg hflag]

theorem find?_protocolErrorIf {name : String} (hname : name ∉ Label.classifying) (m : Message)
    (condition : Prop) [Decidable condition] :
    (m.protocolErrorIf condition).attributes.find? name = m.attributes.find? name := by
  unfold Message.protocolErrorIf
  split
  · exact find?_protocolError hname m
  · rfl

/-- A query that is read. -/
theorem request?_spec (hread : request? m = some m') :
    ∃ h, header? m.data (base m) = some h ∧ base m + headerLength < m.data.length ∧
      h.isPlausible = true ∧
      m'.attributes.find? Label.dnsId = some (.int (Int64.ofInt h.id)) ∧
      m'.attributes.find? Label.dnsRcode = m.attributes.find? Label.dnsRcode := by
  unfold request? at hread
  simp only at hread
  split at hread
  · cases hread
  · rename_i hlength
    obtain ⟨h, hh, hread⟩ := Option.bind_eq_some_iff.1 hread
    split at hread
    · cases hread
    · rename_i hkind
      obtain ⟨⟨domain, stop⟩, -, hread⟩ := Option.bind_eq_some_iff.1 hread
      cases hread
      have hfew : h.isPlausible = true := by simp at hkind; exact hkind.2
      refine ⟨h, hh, by omega, hfew, ?_, ?_⟩
      · rw [Message.putText, Attributes.find?_putText, if_neg (by decide), Message.putInt,
          Attributes.find?_putInt, if_pos rfl]
      · rw [Message.putText, Attributes.find?_putText, if_neg (by decide), Message.putInt,
          Attributes.find?_putInt, if_neg (by decide)]
        rfl

/-- An answer that is read. Its outcome decides whether it speaks of an error. -/
theorem response?_spec (hread : response? m = some m') :
    ∃ h, header? m.data (base m) = some h ∧ base m + headerLength < m.data.length ∧
      h.isResponse = true ∧
      m'.attributes.find? Label.dnsId = some (.int (Int64.ofInt h.id)) ∧
      m'.attributes.find? Label.dnsRcode = some (.int (Int64.ofInt h.rcode)) ∧
      ∃ kept, m.Keeps kept ∧ m' = kept.protocolErrorIf (0 < h.rcode) := by
  unfold response? at hread
  simp only at hread
  split at hread
  · cases hread
  · rename_i hlength
    obtain ⟨h, hh, hread⟩ := Option.bind_eq_some_iff.1 hread
    split at hread
    · cases hread
    · rename_i hkind
      obtain ⟨⟨domain, stop⟩, -, hread⟩ := Option.bind_eq_some_iff.1 hread
      have hresponse : h.isResponse = true := by simp at hkind; exact hkind.1.1.1
      cases hread
      refine ⟨h, hh, by simp at hlength; exact hlength.1, hresponse, ?_, ?_, _, ?_, rfl⟩
      · rw [find?_protocolErrorIf (by decide), Message.putInt, Attributes.find?_putInt,
          if_neg (by decide), Message.putInt, Attributes.find?_putInt, if_pos rfl]
      · rw [find?_protocolErrorIf (by decide), Message.putInt, Attributes.find?_putInt, if_pos rfl]
      · have hdomain : m.Keeps (m.putText Label.dnsDomain domain) :=
          (Message.Keeps.refl m).putText (by decide) _
        refine (Message.Keeps.putInt ?_ (by decide) _).putInt (by decide) _
        split
        · exact hdomain
        · exact hdomain.putText (by decide) _

/-! ### Queries and answers -/

theorem base_udp {data : List UInt8} : base { data, transport := .udp } = 0 := rfl

/-- The transaction of a captured query. -/
def queryId? (data : List UInt8) : Option Nat := do
  let _ ← request? { data, transport := .udp }
  let h ← header? data 0
  some h.id

/-- The transaction and the outcome of a captured answer. -/
def outcome? (data : List UInt8) : Option (Nat × Nat) := do
  let _ ← response? { data, transport := .udp }
  let h ← header? data 0
  some (h.id, h.rcode)

variable {data : List UInt8} {id rcode : Nat}

/-- What is read from a query. -/
theorem queryId?_spec (hq : queryId? data = some id) :
    ∃ m, request? { data, transport := .udp } = some m ∧
      m.attributes.find? Label.dnsId = some (.int (Int64.ofInt id)) ∧
      m.attributes.find? Label.dnsRcode = none ∧
      id < 65536 ∧ headerLength < data.length ∧ data[4]? = some 0 := by
  obtain ⟨m, hm, hq⟩ := Option.bind_eq_some_iff.1 hq
  obtain ⟨h, hh, hq⟩ := Option.bind_eq_some_iff.1 hq
  cases hq
  obtain ⟨h', hh', hlength, hfew, hid, hrcode⟩ := request?_spec hm
  rw [base_udp] at hh' hlength
  rw [Nat.zero_add] at hlength
  obtain rfl : h = h' := Option.some.inj (hh.symm.trans hh')
  exact ⟨m, hm, hid, hrcode, id_lt hh, hlength, byte_of_isPlausible hh hfew⟩

/-- What is read from an answer. -/
theorem outcome?_spec (ha : outcome? data = some (id, rcode)) :
    ∃ m, response? { data, transport := .udp } = some m ∧
      m.attributes.find? Label.dnsId = some (.int (Int64.ofInt id)) ∧
      m.attributes.find? Label.dnsRcode = some (.int (Int64.ofInt rcode)) ∧
      (∃ kept, Message.Keeps { data, transport := .udp } kept ∧
        m = kept.protocolErrorIf (0 < rcode)) ∧
      id < 65536 ∧ headerLength < data.length ∧ ∃ b, data[2]? = some b ∧ 128 ≤ b.toNat := by
  obtain ⟨m, hm, ha⟩ := Option.bind_eq_some_iff.1 ha
  obtain ⟨h, hh, ha⟩ := Option.bind_eq_some_iff.1 ha
  cases ha
  obtain ⟨h', hh', hlength, hresponse, hid, hrcode, herror⟩ := response?_spec hm
  rw [base_udp] at hh' hlength
  rw [Nat.zero_add] at hlength
  obtain rfl : h = h' := Option.some.inj (hh.symm.trans hh')
  exact ⟨m, hm, hid, hrcode, herror, id_lt hh, hlength, byte_of_isResponse hh hresponse⟩

theorem getInt_of_find? {a : Attributes} {name : String} {v : Int64}
    (h : a.find? name = some (.int v)) : a.getInt name = v := by
  rw [Attributes.getInt, h]
  rfl

/-- Two transactions are told apart by what labels carry of them. -/
theorem id_injective {id' : Nat} (hid : id < 65536) (hid' : id' < 65536)
    (h : Int64.ofInt id = Int64.ofInt id') : id = id' := by
  have hint : (id : Int) = id' := by
    rw [← Int64.toInt_ofInt_of_le (n := id) (by omega) (by omega), h,
      Int64.toInt_ofInt_of_le (by omega) (by omega)]
  omega

/-- **A response is paired with the query that has its transaction**, where no other has. -/
theorem matching?_eq_some {requests : List Message} {response q : Message} {i : Nat}
    (hdistinct : (requests.map (·.attributes.getInt Label.dnsId)).Nodup)
    (hi : requests[i]? = some q)
    (hq : q.attributes.getInt Label.dnsId = response.attributes.getInt Label.dnsId) :
    matching? requests response = some i := by
  obtain ⟨hlt, rfl⟩ := List.getElem?_eq_some_iff.1 hi
  refine List.findIdx?_eq_some_iff_getElem.2 ⟨hlt, decide_eq_true hq, fun j hj hother ↦ ?_⟩
  have hj' : j < requests.length := by omega
  have hsame : (requests.map (·.attributes.getInt Label.dnsId))[j]? =
      (requests.map (·.attributes.getInt Label.dnsId))[i]? := by
    rw [List.getElem?_map, List.getElem?_map, List.getElem?_eq_getElem hj', hi, Option.map_some,
      Option.map_some, hq]
    exact congrArg some (of_decide_eq_true hother)
  have heq := (List.getElem?_inj (by rwa [List.length_map]) hdistinct).1 hsame
  omega

/-! ### Other readers -/

theorem untilBlankWithin_snd (m : Message) (start limit : Nat) :
    (m.untilBlankWithin start limit).2 = (window m.data start limit).takeWhile (· ≠ 0x20) := by
  simp only [Message.untilBlankWithin]
  split <;> rfl

/-- The word at the beginning of a message is a beginning of the message. -/
theorem prefix_untilBlankWithin (m : Message) (limit : Nat) :
    (m.untilBlankWithin 0 limit).2 <+: m.data := by
  rw [untilBlankWithin_snd, window, List.drop_zero]
  exact (List.takeWhile_prefix _).trans (List.take_prefix limit m.data)

/-- **HTTP takes no answer for a response**: the third byte would be a letter. -/
theorem http_response?_eq_none {m : Message} {b : UInt8} (hb : m.data[2]? = some b)
    (hmark : 128 ≤ b.toNat) : Http.response? m = none := by
  have hversion : (Http.versions.map Ascii.bytes).contains (m.untilBlankWithin 0 9).2 = false := by
    rw [Bool.eq_false_iff, ne_eq, List.contains_iff_mem]
    intro hmem
    have hletter : ∀ v ∈ Http.versions.map Ascii.bytes, v[2]? = some 0x54 := by decide
    obtain ⟨hlt, hget⟩ := List.getElem?_eq_some_iff.1 (hletter _ hmem)
    have hdata := List.prefix_iff_getElem?.1 (prefix_untilBlankWithin m 9) 2 hlt
    rw [hb, hget] at hdata
    rw [Option.some.inj hdata] at hmark
    exact absurd hmark (by decide)
  have hstatus : Http.status? m = none := by
    simp only [Http.status?, hversion]
    rfl
  unfold Http.response?
  split
  · rfl
  · rw [hstatus]
    rfl

/-- **MySQL takes no query for a command**: the fifth byte would be the command. -/
theorem mysql_request?_eq_none {m : Message} (hb : m.data[4]? = some 0) :
    Mysql.request? m = none := by
  unfold Mysql.request?
  simp only [Mysql.headerLength, uint?_one hb]
  rfl

/-- Whether HTTP takes a message for a request is decided by its first bytes. -/
theorem http_method?_congr {m m' : Message} (h : m.data.take 9 = m'.data.take 9)
    (hlength : 9 ≤ m.data.length) : Http.method? m = Http.method? m' := by
  have hlength' : 9 ≤ m'.data.length := by
    have htake := congrArg List.length h
    simp only [List.length_take] at htake
    omega
  have hget : ∀ i, i < 9 → m.data[i]? = m'.data[i]? := fun i hi ↦ by
    rw [← List.getElem?_take_of_lt hi, h, List.getElem?_take_of_lt hi]
  have hwindow : window m.data 0 8 = window m'.data 0 8 := by
    have htake := congrArg (List.take 8) h
    simpa [window, List.take_take] using htake
  have hword : m.untilBlankWithin 0 8 = m'.untilBlankWithin 0 8 := by
    have hstop : min (0 + 8) m.data.length = min (0 + 8) m'.data.length := by omega
    simp only [Message.untilBlankWithin, hwindow, hstop, Nat.zero_min]
  have hoffset : (m'.untilBlankWithin 0 8).1 < 9 := by
    have hpart : (window m'.data 0 8).length ≤ 8 := List.length_take_le 8 _
    simp only [Message.untilBlankWithin]
    split
    · simp only
      omega
    · simp only
      omega
  unfold Http.method?
  rw [hword]
  simp only
  rw [hget _ hoffset, hget _ (by omega)]

end Dns

end SocketWatch.Wire
