import SocketWatch.Json.Reader
import SocketWatch.Json.Record
import SocketWatch.Wire.Message
/-!
# RocketMQ

A frame starts with its length and a descriptor, whose first byte tells how the header is
written and whose other three bytes give its length. A header holds a code, a number that ties a
response to its request, a remark and extra fields, of which one may name the topic. It is
written either as a JSON record or in binary, where remark and extra fields follow a fixed part as
blocks with a length in front.
-/

namespace SocketWatch.Wire.RocketMq

/-- The length of a frame up to the variable part of a binary header. -/
def minFrame : Nat := 29

/-- Where the header starts. -/
def headerStart : Nat := 8

/-- A remoting header. -/
structure Header where
  /-- The call of a request, the outcome of a response. -/
  code : Int
  /-- The number that ties a response to its request. -/
  opaqueId : Int
  /-- A remark. -/
  remark : Option String
  /-- The extra fields. -/
  extFields : Fields String
deriving DecidableEq

namespace Header

/-- Whether an extra field names the topic. -/
def isTopicKey (key : String) : Bool := key = "topic" || key = "b"

/-- The topic that the extra fields name. -/
def topic? (h : Header) : Option String :=
  (h.extFields.find? "topic").orElse fun _ ↦ h.extFields.find? "b"

/-- The members of a header written in JSON. -/
def memberNames : List String := ["code", "opaque", "remark", "extFields"]

/-- The extra fields an object gives. -/
def extFieldsOfJson? (j : Json) : Option (Fields String) := do
  let entries ← (← j.members?).mapM fun (n, v) ↦ v.string?.map fun s ↦ (n, s)
  some (Fields.ofList entries)

/-- The header a JSON record gives. -/
def ofJson? (j : Json) : Option Header := do
  let m ← Json.source.record? memberNames j
  some {
    code := ← m.withDefault "code" 0 (Json.signed? 16)
    opaqueId := ← m.withDefault "opaque" 0 (Json.signed? 32)
    remark := ← m.withDefault "remark" none (Json.source.nullable? Json.string?)
    extFields := ← m.withDefault "extFields" ∅ extFieldsOfJson? }

/-- A block with its length of `size` bytes in front, and what follows it. -/
def block? (size : Nat) (bs : List UInt8) : Option (List UInt8 × List UInt8) := do
  let length ← uint? bs 0 size
  let block ← slice? bs size length
  some (block, bs.drop (size + length))

theorem length_lt_of_block? {size : Nat} {bs block rest : List UInt8} (hsize : 0 < size)
    (h : block? size bs = some (block, rest)) : rest.length < bs.length := by
  obtain ⟨length, hlength, h⟩ := Option.bind_eq_some_iff.1 h
  obtain ⟨slice, hslice, h⟩ := Option.bind_eq_some_iff.1 h
  obtain ⟨rfl, rfl⟩ := Prod.mk.inj (Option.some.inj h)
  have : size + length ≤ bs.length := by
    unfold slice? at hslice
    split at hslice
    · assumption
    · exact absurd hslice (by simp)
  simp only [List.length_drop]
  omega

/-- One extra field of a binary header, and what follows it. -/
def binaryField? (bs : List UInt8) : Option ((String × String) × List UInt8) := do
  let (key, rest) ← block? 2 bs
  let (value, rest) ← block? 4 rest
  some ((Utf8.lossy key, Utf8.lossy value), rest)

theorem length_lt_of_binaryField? {bs rest : List UInt8} {field : String × String}
    (h : binaryField? bs = some (field, rest)) : rest.length < bs.length := by
  obtain ⟨⟨key, r⟩, hkey, h⟩ := Option.bind_eq_some_iff.1 h
  obtain ⟨⟨value, r'⟩, hvalue, h⟩ := Option.bind_eq_some_iff.1 h
  obtain ⟨-, rfl⟩ := Prod.mk.inj (Option.some.inj h)
  exact Nat.lt_trans (length_lt_of_block? (by decide) hvalue)
    (length_lt_of_block? (by decide) hkey)

/-- The extra fields of a binary header, in order, as far as they were captured and up to the
one that names the topic. `left` is what the header says is left of them. -/
def binaryFields (left : Nat) (bs : List UInt8) : List (String × String) :=
  if left = 0 then []
  else match h : binaryField? bs with
    | none => []
    | some (field, rest) =>
      have := length_lt_of_binaryField? h
      if isTopicKey field.1 then [field]
      else field :: binaryFields (left - (bs.length - rest.length)) rest
termination_by bs.length

/-- The header a binary frame gives. -/
def ofBinary? (data : List UInt8) : Option Header := do
  let code ← int? data 8 2
  let opaqueId ← int? data 13 4
  let remarkLength ← uint? data 21 4
  let extLength ← uint? data 25 4
  let remark := (data.drop minFrame).take remarkLength
  some {
    code
    opaqueId
    remark := if remarkLength = 0 then none else some (Utf8.lossy remark)
    extFields := Fields.ofList (binaryFields extLength (data.drop (minFrame + remarkLength))) }

/-- The header of a frame. -/
def ofFrame? (data : List UInt8) : Option Header :=
  if data.length < minFrame then none
  else match uint? data 4 1 with
    | some 0 => do
      let length ← uint? data 4 4
      let json ← slice? data headerStart length
      ofJson? (← Json.parseBytes? json)
    | some 1 => ofBinary? data
    | _ => none

end Header

/-- The names of calls. -/
def requestNames : List (Int × String) := [
  (10, "SEND_MESSAGE"), (11, "PULL_MESSAGE"), (12, "QUERY_MESSAGE"),
  (14, "QUERY_CONSUMER_OFFSET"), (15, "UPDATE_CONSUMER_OFFSET"),
  (17, "UPDATE_AND_CREATE_TOPIC"), (29, "GET_MAX_OFFSET"), (30, "GET_MIN_OFFSET"),
  (33, "VIEW_MESSAGE_BY_ID"), (34, "HEART_BEAT"), (35, "UNREGISTER_CLIENT"),
  (36, "CONSUMER_SEND_MSG_BACK"), (37, "END_TRANSACTION"), (38, "GET_CONSUMER_LIST_BY_GROUP"),
  (41, "LOCK_BATCH_MQ"), (42, "UNLOCK_BATCH_MQ"), (105, "GET_ROUTEINFO_BY_TOPIC"),
  (106, "GET_BROKER_CLUSTER_INFO"), (310, "SEND_MESSAGE_V2"), (320, "SEND_BATCH_MESSAGE")]

/-- The names of outcomes that are errors. -/
def errorNames : List (Int × String) := [
  (1, "SYSTEM_ERROR"), (2, "SYSTEM_BUSY"), (3, "REQUEST_CODE_NOT_SUPPORTED"),
  (4, "TRANSACTION_FAILED"), (10, "FLUSH_DISK_TIMEOUT"), (11, "SLAVE_NOT_AVAILABLE"),
  (12, "FLUSH_SLAVE_TIMEOUT"), (13, "MESSAGE_ILLEGAL"), (14, "SERVICE_NOT_AVAILABLE"),
  (15, "VERSION_NOT_SUPPORTED"), (16, "NO_PERMISSION"), (17, "TOPIC_NOT_EXIST"),
  (18, "TOPIC_EXIST_ALREADY"), (19, "PULL_NOT_FOUND"), (20, "PULL_RETRY_IMMEDIATELY"),
  (21, "PULL_OFFSET_MOVED"), (22, "QUERY_NOT_FOUND"), (23, "SUBSCRIPTION_PARSE_FAILED"),
  (24, "SUBSCRIPTION_NOT_EXIST"), (25, "SUBSCRIPTION_NOT_LATEST"),
  (26, "SUBSCRIPTION_GROUP_NOT_EXIST"), (206, "CONSUMER_NOT_ONLINE")]

/-- The name of a call. -/
def requestName (code : Int) : String :=
  (requestNames.lookup code).getD ("RequestCode:" ++ Numeral.intText code)

/-- The text of an outcome that is an error: its name, else a remark, else its code. -/
def errorText (code : Int) (remark : Option String) : String :=
  match errorNames.lookup code, remark with
  | some name, _ => name
  | none, some r => if r.isEmpty then unnamed else r
  | none, none => unnamed
where
  /-- The text for a code without a name. -/
  unnamed : String := "error:response code is " ++ Numeral.intText code

/-- Read a request. -/
def request? (m : Message) : Option Message := do
  let h ← Header.ofFrame? m.data
  let name := requestName h.code
  let key := h.topic?.elim name fun t ↦ "Topic:" ++ t
  some ((((m.seek m.data.length).putText Label.rocketmqRequestMsg name).putInt
    Label.rocketmqOpaque h.opaqueId).putText Label.contentKey key)

/-- Read a response, which must carry the number of its request. -/
def response? (m : Message) : Option Message := do
  let h ← Header.ofFrame? m.data
  if !m.attributes.contains Label.rocketmqOpaque
      || (m.attributes.getInt Label.rocketmqOpaque).toInt ≠ h.opaqueId then none
  else
    let m := (m.seek m.data.length).putInt Label.rocketmqErrorCode h.code
    some (if 0 < h.code then
      (m.putText Label.rocketmqErrorMsg (errorText h.code h.remark)).protocolError
    else m)

end SocketWatch.Wire.RocketMq
