import SocketWatch.Event.Json
import SocketWatch.Proofs.Fields
import SocketWatch.Proofs.Ipv4
import SocketWatch.Proofs.Json.ReadBack
import SocketWatch.Proofs.Json.Record
/-!
# Events are read back from their text

An event that is written as JSON and read again is the event it was (`round_trip`), with one exception:
an unsigned attribute that a signed number can hold comes back signed, because the text of a number
does not say which of the two it was. `Event.normal` is an event as it comes back. Whoever asks an
attribute for a number, for an address or for its text gets the same answer before and after.

Events that were read are normal already (`normal_of_parse?`): what the reader takes for unsigned is
too large for a signed number. That rests on the reader refusing integers of more than 64 bits, see
`Json.every_of_parse?`; wrapped, such an integer could be small again.

The attributes of an event are a map, and a writer may list them in any order (`toJsonListing`). The
order of names, in which `Event.toJson` lists them, is one of these.
-/

namespace SocketWatch

/-! ### Words as numbers of a document -/

namespace Json

theorem nat?_nat {bits n : Nat} (h : n < Word.count bits) : (Json.nat n).nat? bits = some n := by
  have hfits : Word.fits bits n = true := Word.fits_iff.2 ⟨Int.natCast_nonneg n, Int.ofNat_lt.2 h⟩
  show ((some (n : Int)).filter (Word.fits bits)).map Int.toNat = _
  rw [Option.filter_some, if_pos hfits, Option.map_some, Int.toNat_natCast]

theorem signed?_int {bits : Nat} {i : Int} (h : Word.fitsSigned bits i = true) :
    (Json.int i).signed? bits = some i := by
  show (some i).filter (Word.fitsSigned bits) = _
  rw [Option.filter_some, if_pos h]

theorem byte?_nat (v : UInt8) : byte? (.nat v.toNat) = some v := by
  rw [byte?, nat?_nat v.toNat_lt, Option.map_some, UInt8.ofNat_toNat]

theorem list?_bytes (bytes : List UInt8) :
    source.list? byte? (.list (bytes.map fun b ↦ .nat b.toNat)) = some bytes := by
  show List.mapM byte? _ = _
  rw [mapM_eq_some_iff, List.forall₂_map_left_iff, List.forall₂_same]
  exact fun b _ ↦ byte?_nat b

theorem uint16?_nat (v : UInt16) : uint16? (.nat v.toNat) = some v := by
  rw [uint16?, nat?_nat v.toNat_lt, Option.map_some, UInt16.ofNat_toNat]

theorem uint32?_nat (v : UInt32) : uint32? (.nat v.toNat) = some v := by
  rw [uint32?, nat?_nat v.toNat_lt, Option.map_some, UInt32.ofNat_toNat]

theorem uint64?_nat (v : UInt64) : uint64? (.nat v.toNat) = some v := by
  rw [uint64?, nat?_nat v.toNat_lt, Option.map_some, UInt64.ofNat_toNat]

theorem int32?_int (v : Int32) : int32? (.int v.toInt) = some v := by
  rw [int32?, signed?_int (Word.fitsSigned_int32 v), Option.map_some, Int32.ofInt_toInt]

theorem int64?_int (v : Int64) : int64? (.int v.toInt) = some v := by
  rw [int64?, signed?_int (Word.fitsSigned_int64 v), Option.map_some, Int64.ofInt_toInt]

theorem ipv4?_text (ip : Ipv4) : ipv4? (.text ip.text) = some ip := by
  rw [ipv4?, string?, Option.bind_eq_bind, Option.bind_some, Ipv4.parse?_text]

theorem nullable?_ipv4 (o : Option Ipv4) :
    source.nullable? ipv4? (.orNull (fun ip ↦ .text ip.text) o) = some o := by
  apply nullable?_orNull
  · exact ipv4?_text
  · exact fun _ ↦ rfl

theorem every_nat {n : Nat} (h : n < Word.count 64) : Every IsExact (.nat n) :=
  .scalar (inWord_iff.2 (by omega))

theorem every_int32 (v : Int32) : Every IsExact (.int v.toInt) := by
  have hlow := v.le_toInt
  have hhigh := v.toInt_lt
  refine .scalar (.inl (Word.fitsSigned_iff.2 ?_))
  have hcount : Word.count 63 = 9223372036854775808 := by decide
  omega

theorem every_uint64 (v : UInt64) : Every IsExact (.nat v.toNat) := every_nat v.toNat_lt

theorem every_int64 (v : Int64) : Every IsExact (.int v.toInt) :=
  .scalar (.inl (Word.fitsSigned_int64 v))

end Json

/-! ### Attributes -/

namespace Attribute

/-- The attribute as it comes back: a number that has 63 bits is signed. -/
def normal : Attribute → Attribute
  | .word v => if v.toNat < Word.count 63 then .int (Int64.ofNat v.toNat) else .word v
  | a => a

variable (a : Attribute)

theorem every_toJson : Json.Every Json.IsExact a.toJson := by
  cases a with
  | bool b => exact .scalar trivial
  | int v => exact Json.every_int64 v
  | word v => exact Json.every_uint64 v
  | text s => exact .scalar trivial

theorem ofJson?_toJson : ofJson? a.toJson = some a.normal := by
  cases a with
  | bool b => rfl
  | int v =>
    show some (if Word.fitsSigned 64 v.toInt = true then Attribute.int _ else _) = _
    rw [if_pos (Word.fitsSigned_int64 v), Int64.ofInt_toInt]
    rfl
  | word v =>
    have hfits : Word.fitsSigned 64 v.toNat = true ↔ v.toNat < Word.count 63 := by
      rw [Word.fitsSigned_iff]
      omega
    show some (if Word.fitsSigned 64 v.toNat = true then Attribute.int _ else .word _) = _
    rw [Int.toNat_natCast, UInt64.ofNat_toNat, normal]
    simp only [hfits]
    rfl
  | text s => rfl

/-- Only unsigned numbers come back otherwise. -/
theorem normal_cases : a.normal = a ∨
    ∃ v : UInt64, a = .word v ∧ v.toNat < Word.count 63 ∧
      a.normal = .int (Int64.ofNat v.toNat) := by
  cases a with
  | word v =>
    by_cases h : v.toNat < Word.count 63
    · exact .inr ⟨v, rfl, h, if_pos h⟩
    · exact .inl (if_neg h)
  | bool | int | text => exact .inl rfl

theorem normal_int64? : a.normal.int64? = a.int64? := by
  rcases a.normal_cases with h | ⟨v, rfl, hlt, h⟩
  · rw [h]
  · rw [h, int64?, int64?, if_pos hlt]

theorem normal_uint64? : a.normal.uint64? = a.uint64? := by
  rcases a.normal_cases with h | ⟨v, rfl, hlt, h⟩
  · rw [h]
  · have hvalue : (Int64.ofNat v.toNat).toInt = v.toNat := Int64.toInt_ofNat_of_lt hlt
    rw [h, uint64?, uint64?, hvalue, if_pos (Int.natCast_nonneg _), Int.toNat_natCast,
      UInt64.ofNat_toNat]

theorem normal_ipv4? : a.normal.ipv4? = a.ipv4? := by
  have hnumber := a.normal_uint64?
  rcases a.normal_cases with h | ⟨v, rfl, -, h⟩
  · rw [h]
  · rw [h] at hnumber ⊢
    rw [ipv4?, ipv4?, hnumber]
    · nofun
    · nofun

theorem normal_display : a.normal.display = a.display := by
  rcases a.normal_cases with h | ⟨v, rfl, hlt, h⟩
  · rw [h]
  · have hvalue : (Int64.ofNat v.toNat).toInt = v.toNat := Int64.toInt_ofNat_of_lt hlt
    rw [h, display, display, hvalue]
    rfl

/-- An attribute that was read comes back as it is. -/
theorem normal_of_ofJson? {j : Json} (hj : Json.Every Json.IsHeld j) {a : Attribute}
    (h : ofJson? j = some a) : a.normal = a := by
  cases j with
  | int i =>
    cases h
    split
    · rfl
    · rename_i hbig
      have hword : Json.InWord i := by
        cases hj with
        | scalar h => exact h
      have hrange := Json.inWord_iff.1 hword
      have hcount := Word.count_pos 64
      have hlt : i.toNat < Word.count 64 := by omega
      have hvalue : (UInt64.ofNat i.toNat).toNat = i.toNat := UInt64.toNat_ofNat_of_lt' hlt
      rw [Word.fitsSigned_iff] at hbig
      rw [normal, hvalue, if_neg (by omega)]
  | bool | text => cases h; rfl
  | null | real | garbled | list | object => cases h

end Attribute

namespace Attributes

/-- An object of attributes, in the order in which they are listed. -/
def listing (listed : List (String × Attribute)) : Json :=
  .object (listed.map fun e ↦ (e.1, e.2.toJson))

/-- The attributes as they come back. -/
def normal (a : Attributes) : Attributes := a.map Attribute.normal

theorem every_listing (listed : List (String × Attribute)) :
    Json.Every Json.IsExact (listing listed) := by
  refine .object fun m hm ↦ ?_
  obtain ⟨e, -, rfl⟩ := List.mem_map.1 hm
  exact e.2.every_toJson

theorem ofJson?_listing {a : Attributes} {listed : List (String × Attribute)}
    (h : listed.Perm a.entries) : ofJson? (listing listed) = some a.normal := by
  have hentries : (listed.map fun e ↦ (e.1, e.2.toJson)).mapM
      (fun (m : String × Json) ↦ (Attribute.ofJson? m.2).map fun v ↦ (m.1, v)) =
        some (listed.map fun e ↦ (e.1, e.2.normal)) := by
    rw [mapM_eq_some_iff, List.forall₂_map_left_iff, List.forall₂_map_right_iff, List.forall₂_same]
    intro e _
    rw [e.2.ofJson?_toJson, Option.map_some]
  show (List.mapM (fun (m : String × Json) ↦ (Attribute.ofJson? m.2).map fun v ↦ (m.1, v)) _).bind
    (fun entries ↦ some (Fields.ofList entries)) = _
  have hperm : (listed.map fun e ↦ (e.1, e.2.normal)).Perm a.normal.entries := h.map _
  rw [hentries, Option.bind_some, Fields.ofList_of_perm hperm]

theorem normal_of_ofJson? {j : Json} (hj : Json.Every Json.IsHeld j) {a : Attributes}
    (h : ofJson? j = some a) : a.normal = a := by
  obtain ⟨ms, hms, h⟩ := Option.bind_eq_some_iff.1 h
  obtain ⟨entries, hentries, h⟩ := Option.bind_eq_some_iff.1 h
  cases h
  cases j with
  | object =>
    cases hms
    refine Fields.map_eq_self fun e he ↦ ?_
    obtain ⟨m, hm, hread⟩ := mem_of_mapM hentries (Fields.mem_of_mem_ofList he)
    obtain ⟨v, hv, rfl⟩ := Option.map_eq_some_iff.1 hread
    exact Attribute.normal_of_ofJson? (Json.every_of_mem_object hj m hm) hv
  | null | bool | int | real | text | garbled | list => cases hms

end Attributes

/-! ### Records -/

theorem Category.ofName?_name (c : Category) : Category.ofName? c.name = some c := by
  cases c <;> decide

theorem Transport.ofName?_name (t : Transport) : Transport.ofName? t.name = some t := by
  cases t <;> decide

namespace Thread

theorem every_toJson (t : Thread) : Json.Every Json.IsExact t.toJson := by
  refine .object fun m hm ↦ ?_
  simp only [List.mem_cons, List.not_mem_nil, or_false] at hm
  rcases hm with rfl | rfl | rfl | rfl
  · exact Json.every_nat (Nat.lt_trans t.pid.toNat_lt (by decide))
  · exact Json.every_nat (Nat.lt_trans t.tid.toNat_lt (by decide))
  · exact .scalar trivial
  · exact .scalar trivial

theorem ofJson?_toJson (t : Thread) : ofJson? t.toJson = some t := by
  obtain ⟨m, hm, hgive⟩ :=
    Json.exists_members memberNames (show t.toJson = .object _ from rfl) rfl (by decide)
  have hpid : m.required "pid" Json.uint32? = some t.pid :=
    hgive.required (by simp) (Json.uint32?_nat t.pid)
  have htid : m.required "tid" Json.uint32? = some t.tid :=
    hgive.required (by simp) (Json.uint32?_nat t.tid)
  have hcomm : m.withDefault "comm" "" Json.string? = some t.comm :=
    hgive.withDefault (d := .text t.comm) (by simp) rfl
  have hcontainer : m.withDefault "container_id" "" Json.string? = some t.containerId :=
    hgive.withDefault (d := .text t.containerId) (by simp) rfl
  rw [ofJson?, hm]
  simp only [Option.bind_eq_bind, Option.bind_some, hpid, htid, hcomm, hcontainer]

end Thread

namespace Socket

theorem every_toJson (s : Socket) : Json.Every Json.IsExact s.toJson := by
  refine .object fun m hm ↦ ?_
  simp only [List.mem_cons, List.not_mem_nil, or_false] at hm
  rcases hm with rfl | rfl | rfl | rfl | rfl | rfl | rfl
  · exact Json.every_int32 s.num
  · exact .scalar trivial
  · exact .scalar trivial
  · exact Json.every_orNull trivial (fun _ ↦ .scalar trivial) s.srcIp
  · exact Json.every_orNull trivial (fun _ ↦ .scalar trivial) s.dstIp
  · exact Json.every_nat (Nat.lt_trans s.srcPort.toNat_lt (by decide))
  · exact Json.every_nat (Nat.lt_trans s.dstPort.toNat_lt (by decide))

theorem ofJson?_toJson (s : Socket) : ofJson? s.toJson = some s := by
  obtain ⟨m, hm, hgive⟩ :=
    Json.exists_members memberNames (show s.toJson = .object _ from rfl) rfl (by decide)
  have hnum : m.required "num" Json.int32? = some s.num :=
    hgive.required (by simp) (Json.int32?_int s.num)
  have hprotocol : (m.withDefault "protocol" .unknown fun d ↦ d.choice? >>= Transport.ofName?) =
      some s.transport :=
    hgive.withDefault (d := Json.text s.transport.name) (by simp) s.transport.ofName?_name
  have hrole : m.withDefault "role" false Json.bool? = some s.isServer :=
    hgive.withDefault (d := .bool s.isServer) (by simp) rfl
  have hsip : m.optional Json.source "sip" Json.ipv4? = some s.srcIp :=
    hgive.optional (by simp) (Json.nullable?_ipv4 s.srcIp)
  have hdip : m.optional Json.source "dip" Json.ipv4? = some s.dstIp :=
    hgive.optional (by simp) (Json.nullable?_ipv4 s.dstIp)
  have hsport : m.withDefault "sport" 0 Json.uint16? = some s.srcPort :=
    hgive.withDefault (by simp) (Json.uint16?_nat s.srcPort)
  have hdport : m.withDefault "dport" 0 Json.uint16? = some s.dstPort :=
    hgive.withDefault (by simp) (Json.uint16?_nat s.dstPort)
  rw [ofJson?, hm]
  simp only [Option.bind_eq_bind, Option.bind_some] at hprotocol ⊢
  simp only [Option.bind_some, hnum, hprotocol, hrole, hsip, hdip, hsport, hdport]

end Socket

namespace Context

theorem every_toJson (c : Context) : Json.Every Json.IsExact c.toJson := by
  refine .object fun m hm ↦ ?_
  simp only [List.mem_cons, List.not_mem_nil, or_false] at hm
  rcases hm with rfl | rfl
  · exact Json.every_orNull trivial Thread.every_toJson c.thread
  · exact Json.every_orNull trivial Socket.every_toJson c.socket

theorem ofJson?_toJson (c : Context) : ofJson? c.toJson = some c := by
  obtain ⟨m, hm, hgive⟩ :=
    Json.exists_members memberNames (show c.toJson = .object _ from rfl) rfl (by decide)
  have hthread : m.optional Json.source "thread" Thread.ofJson? = some c.thread :=
    hgive.optional (by simp)
      (Json.nullable?_orNull Thread.ofJson?_toJson (fun _ ↦ rfl) c.thread)
  have hsocket : m.optional Json.source "fd" Socket.ofJson? = some c.socket :=
    hgive.optional (by simp)
      (Json.nullable?_orNull Socket.ofJson?_toJson (fun _ ↦ rfl) c.socket)
  rw [ofJson?, hm]
  simp only [Option.bind_eq_bind, Option.bind_some, hthread, hsocket]

end Context

namespace Event

/-- The event as a document, its attributes in the order in which they are listed. -/
def toJsonListing (e : Event) (listed : List (String × Attribute)) : Json :=
  .object [("name", .text e.name), ("category", .text e.category.name),
    ("timestamp", .nat e.timestamp.toNat), ("latency", .nat e.latency.toNat),
    ("res_val", .int e.result.toInt), ("data", .list (e.data.map fun b ↦ .nat b.toNat)),
    ("ctx", .orNull Context.toJson e.context), ("user_attributes", Attributes.listing listed)]

theorem toJson_eq_toJsonListing (e : Event) :
    e.toJson = e.toJsonListing e.attributes.entries :=
  rfl

/-- The event as it comes back. -/
def normal (e : Event) : Event := { e with attributes := e.attributes.normal }

theorem every_toJsonListing (e : Event) (listed : List (String × Attribute)) :
    Json.Every Json.IsExact (e.toJsonListing listed) := by
  refine .object fun m hm ↦ ?_
  simp only [List.mem_cons, List.not_mem_nil, or_false] at hm
  rcases hm with rfl | rfl | rfl | rfl | rfl | rfl | rfl | rfl
  · exact .scalar trivial
  · exact .scalar trivial
  · exact Json.every_uint64 e.timestamp
  · exact Json.every_uint64 e.latency
  · exact Json.every_int64 e.result
  · refine .list fun x hx ↦ ?_
    obtain ⟨b, -, rfl⟩ := List.mem_map.1 hx
    exact Json.every_nat (Nat.lt_trans b.toNat_lt (by decide))
  · exact Json.every_orNull trivial Context.every_toJson e.context
  · exact Attributes.every_listing listed

theorem ofJson?_toJsonListing (e : Event) {listed : List (String × Attribute)}
    (h : listed.Perm e.attributes.entries) : ofJson? (e.toJsonListing listed) = some e.normal := by
  obtain ⟨m, hm, hgive⟩ := Json.exists_members memberNames
    (show e.toJsonListing listed = .object _ from rfl) rfl (by decide)
  have hname : m.required "name" Json.string? = some e.name :=
    hgive.required (d := .text e.name) (by simp) rfl
  have hcategory : (m.withDefault "category" .unknown fun d ↦ d.choice? >>= Category.ofName?) =
      some e.category :=
    hgive.withDefault (d := Json.text e.category.name) (by simp) e.category.ofName?_name
  have htimestamp : m.required "timestamp" Json.uint64? = some e.timestamp :=
    hgive.required (by simp) (Json.uint64?_nat e.timestamp)
  have hlatency : m.withDefault "latency" 0 Json.uint64? = some e.latency :=
    hgive.withDefault (by simp) (Json.uint64?_nat e.latency)
  have hresult : m.withDefault "res_val" 0 Json.int64? = some e.result :=
    hgive.withDefault (by simp) (Json.int64?_int e.result)
  have hdata : m.withDefault "data" [] (Json.source.list? Json.byte?) = some e.data :=
    hgive.withDefault (by simp) (Json.list?_bytes e.data)
  have hcontext : m.withDefault "ctx" none (Json.source.nullable? Context.ofJson?) =
      some e.context :=
    hgive.withDefault (by simp)
      (Json.nullable?_orNull Context.ofJson?_toJson (fun _ ↦ rfl) e.context)
  have hattributes : m.withDefault "user_attributes" ∅ Attributes.ofJson? =
      some e.attributes.normal :=
    hgive.withDefault (by simp) (Attributes.ofJson?_listing h)
  rw [ofJson?, hm]
  simp only [Option.bind_eq_bind, Option.bind_some] at hcategory ⊢
  simp only [Option.bind_some, hname, hcategory, htimestamp, hlatency, hresult, hdata, hcontext,
    hattributes]
  rfl

theorem attributes_of_ofJson? {j : Json} {e : Event} (h : ofJson? j = some e) :
    ∃ m, Json.source.record? memberNames j = some m ∧
      m.withDefault "user_attributes" ∅ Attributes.ofJson? = some e.attributes := by
  obtain ⟨m, hm, h⟩ := Option.bind_eq_some_iff.1 h
  -- seven members are read before the attributes
  obtain ⟨_, -, h⟩ := Option.bind_eq_some_iff.1 h
  obtain ⟨_, -, h⟩ := Option.bind_eq_some_iff.1 h
  obtain ⟨_, -, h⟩ := Option.bind_eq_some_iff.1 h
  obtain ⟨_, -, h⟩ := Option.bind_eq_some_iff.1 h
  obtain ⟨_, -, h⟩ := Option.bind_eq_some_iff.1 h
  obtain ⟨_, -, h⟩ := Option.bind_eq_some_iff.1 h
  obtain ⟨_, -, h⟩ := Option.bind_eq_some_iff.1 h
  obtain ⟨a, ha, h⟩ := Option.bind_eq_some_iff.1 h
  cases h
  exact ⟨m, hm, ha⟩

/-- An event that was read comes back as it is. -/
theorem normal_of_parse? {s : String} {e : Event} (h : parse? s = some e) : e.normal = e := by
  obtain ⟨j, hj, h⟩ := Option.bind_eq_some_iff.1 h
  obtain ⟨m, hm, ha⟩ := attributes_of_ofJson? h
  have hattributes : e.attributes.normal = e.attributes := by
    rw [Members.withDefault] at ha
    split at ha
    · rw [← Option.some.inj ha]
      rfl
    · rename_i d hd
      exact Attributes.normal_of_ofJson? (Json.every_of_find? (Json.every_of_parse? hj) hm hd) ha
  rw [normal, hattributes]

/-- **An event is read back from its text**, in whichever order its attributes are listed, except that
unsigned attributes which a signed number can hold come back signed. They are read as the same number
and as the same address, and are shown as they were. Of an event that was read itself nothing
changes. -/
theorem round_trip :
    (∀ (e : Event) (listed : List (String × Attribute)), listed.Perm e.attributes.entries →
      parse? (Json.render (e.toJsonListing listed)) = some e.normal) ∧
    (∀ a : Attribute, a.normal.int64? = a.int64? ∧ a.normal.uint64? = a.uint64? ∧
      a.normal.ipv4? = a.ipv4? ∧ a.normal.display = a.display) ∧
    ∀ (s : String) (e : Event) (listed : List (String × Attribute)), parse? s = some e →
      listed.Perm e.attributes.entries →
        parse? (Json.render (e.toJsonListing listed)) = some e := by
  have hread (e : Event) (listed : List (String × Attribute))
      (h : listed.Perm e.attributes.entries) :
      parse? (Json.render (e.toJsonListing listed)) = some e.normal := by
    rw [parse?, Json.parse?_render (e.every_toJsonListing listed), Option.bind_eq_bind,
      Option.bind_some, e.ofJson?_toJsonListing h]
  refine ⟨hread, fun a ↦ ?_, fun s e listed hs hlisted ↦ ?_⟩
  · exact ⟨a.normal_int64?, a.normal_uint64?, a.normal_ipv4?, a.normal_display⟩
  · rw [hread e listed hlisted, normal_of_parse? hs]

/-- Of two unsigned attributes, listed against their order, the one that has 63 bits comes back signed,
and then both come back as they are. -/
theorem round_trip_unsigned :
    let large : Attribute := .word 18446744073709551615
    let e : Event :=
      { name := "write", timestamp := 10
        attributes := Fields.ofList [("bytes", .word 3), ("flow", large)] }
    let listed := [("flow", large), ("bytes", .word 3)]
    let back : Attributes := Fields.ofList [("bytes", .int 3), ("flow", large)]
    (listed.Perm e.attributes.entries ∧ e.normal = { e with attributes := back }) ∧
      parse? (Json.render (e.toJsonListing listed)) = some e.normal ∧
      parse? (Json.render e.normal.toJson) = some e.normal := by
  intro large e listed back
  have hlisted : listed.Perm e.attributes.entries := by decide +kernel
  have hread := round_trip.1 e listed hlisted
  refine ⟨⟨hlisted, by decide +kernel⟩, hread, ?_⟩
  rw [toJson_eq_toJsonListing]
  exact round_trip.2.2 _ e.normal _ hread (.refl _)

end Event

end SocketWatch
