import SocketWatch.Proofs.Fields
import SocketWatch.Proofs.Text.Utf8
import SocketWatch.Proofs.Wire.Capture
import SocketWatch.Proofs.Wire.Guarded.RocketMq
/-!
# Binary headers, written and captured

A command is written in binary as numbers of fixed length, a remark and the extra fields, each key
and value behind its length. Read back, it has its code, its number, its remark and the topic of the
first extra field that names one (`ofFrame?_write`).

A cut behind the numbers leaves them where they are. What it leaves of the extra fields are those
that fit and a part of the next one, or nothing at all where it is in the remark (`ofFrame?_take`).
The part is not read as a field: a field that is read from a capture is read from every longer one
too, with as much more behind it (`binaryField?_append`), and behind a field that was written on its
own there is nothing. So the topic is that of the fields that fit, and these come first. Where the
extra fields end is told by a number in front and not by the cut, so what follows them in a frame is
not read, though it may look like another field.
-/

namespace SocketWatch.Wire.RocketMq

namespace Header

variable {size : Nat} {bs block rest : List UInt8} {field : String × String}
  {fields : List (String × String)}

/-! ### Blocks and fields -/

/-- A text behind the length of its bytes. -/
def writeBlock (size : Nat) (s : String) : List UInt8 :=
  writeUint size (Utf8.bytes s).length ++ Utf8.bytes s

/-- An extra field: its key and its value. -/
def writeField (field : String × String) : List UInt8 :=
  writeBlock 2 field.1 ++ writeBlock 4 field.2

/-- Key and value have lengths that can be written. -/
def Fits (field : String × String) : Prop :=
  (Utf8.bytes field.1).length < 0x10000 ∧ (Utf8.bytes field.2).length < 0x100000000

/-- A block that is read from a capture is read from every longer one. -/
theorem block?_append (h : block? size bs = some (block, rest)) (more : List UInt8) :
    block? size (bs ++ more) = some (block, rest ++ more) := by
  obtain ⟨length, hlength, h⟩ := Option.bind_eq_some_iff.1 h
  obtain ⟨part, hpart, h⟩ := Option.bind_eq_some_iff.1 h
  cases h
  have hle := (length_of_slice? hpart).2
  rw [block?, uint?_append_of_eq_some hlength, Option.bind_eq_bind, Option.bind_some,
    slice?_append_of_eq_some hpart, Option.bind_eq_bind, Option.bind_some,
    List.drop_append_of_le_length hle]

theorem block?_writeBlock {s : String} (h : (Utf8.bytes s).length < Word.count (8 * size))
    (rest : List UInt8) : block? size (writeBlock size s ++ rest) = some (Utf8.bytes s, rest) := by
  have hlength : uint? (writeBlock size s ++ rest) 0 size = some (Utf8.bytes s).length := by
    rw [writeBlock, List.append_assoc]
    exact uint?_writeUint h _
  have hblock : slice? (writeBlock size s ++ rest) size (Utf8.bytes s).length =
      some (Utf8.bytes s) := by
    have hbehind := slice?_append (writeUint size (Utf8.bytes s).length) (Utf8.bytes s ++ rest) 0
      (Utf8.bytes s).length
    rwa [length_writeUint, slice?_zero_append, ← List.append_assoc] at hbehind
  have hrest : (writeBlock size s ++ rest).drop (size + (Utf8.bytes s).length) = rest :=
    List.drop_left' (by rw [writeBlock, List.length_append, length_writeUint])
  rw [block?, hlength, Option.bind_eq_bind, Option.bind_some, hblock, Option.bind_eq_bind,
    Option.bind_some, hrest]

/-- A field that is read from a capture is read from every longer one. -/
theorem binaryField?_append (h : binaryField? bs = some (field, rest)) (more : List UInt8) :
    binaryField? (bs ++ more) = some (field, rest ++ more) := by
  obtain ⟨⟨key, r⟩, hkey, h⟩ := Option.bind_eq_some_iff.1 h
  obtain ⟨⟨value, r'⟩, hvalue, h⟩ := Option.bind_eq_some_iff.1 h
  cases h
  simp only [binaryField?, block?_append hkey, block?_append hvalue, Option.bind_eq_bind,
    Option.bind_some]

theorem binaryField?_writeField (h : Fits field) (rest : List UInt8) :
    binaryField? (writeField field ++ rest) = some (field, rest) := by
  have hkey : block? 2 (writeBlock 2 field.1 ++ (writeBlock 4 field.2 ++ rest)) =
      some (Utf8.bytes field.1, writeBlock 4 field.2 ++ rest) := block?_writeBlock h.1 _
  have hvalue : block? 4 (writeBlock 4 field.2 ++ rest) = some (Utf8.bytes field.2, rest) :=
    block?_writeBlock h.2 rest
  simp only [binaryField?, writeField, List.append_assoc, hkey, hvalue, Option.bind_eq_bind,
    Option.bind_some, Utf8.lossy_bytes]

/-- A field that is cut off is not read. -/
theorem binaryField?_of_cut (h : Fits field) {part : List UInt8}
    (hpart : part <+: writeField field) (hlength : part.length < (writeField field).length) :
    binaryField? part = none := by
  obtain ⟨more, hmore⟩ := hpart
  by_contra hread
  obtain ⟨⟨field', rest⟩, hread⟩ := Option.ne_none_iff_exists'.1 hread
  have hwhole := binaryField?_append hread more
  have hfield := binaryField?_writeField h []
  rw [List.append_nil, ← hmore, hwhole] at hfield
  obtain ⟨-, hnil⟩ := Prod.mk.inj (Option.some.inj hfield)
  rw [← hmore, (List.append_eq_nil_iff.1 hnil).2, List.append_nil] at hlength
  exact Nat.lt_irrefl _ hlength

/-! ### The topic -/

/-- The fields up to the one that names the topic. -/
def upToTopic : List (String × String) → List (String × String)
  | [] => []
  | field :: fields => if isTopicKey field.1 then [field] else field :: upToTopic fields

/-- **Written fields are read up to the one that names the topic**, and no further. What follows
them is not read either, be it because the header says that they end here or because it is no field.
-/
theorem binaryFields_write {extra : Nat} {part : List UInt8} (hfits : ∀ f ∈ fields, Fits f)
    (hpart : extra = 0 ∨ binaryField? part = none) :
    binaryFields ((fields.flatMap writeField).length + extra) (fields.flatMap writeField ++ part) =
      upToTopic fields := by
  -- by induction on the fields: what is left behind them is `extra` at every one of them
  induction fields with
  | nil =>
    rcases hpart with rfl | hnone
    · rw [binaryFields]
      rfl
    · exact binaryFields_of_none hnone
  | cons field fields ih =>
    obtain ⟨hfield, hfields⟩ := List.forall_mem_cons.1 hfits
    have hread := binaryField?_writeField hfield (fields.flatMap writeField ++ part)
    have hshorter := length_lt_of_binaryField? hread
    rw [List.flatMap_cons, List.append_assoc, binaryFields_of_some _ hread, upToTopic]
    · split
      · rfl
      · have hleft : (writeField field ++ fields.flatMap writeField).length + extra
            - ((writeField field ++ (fields.flatMap writeField ++ part)).length
              - (fields.flatMap writeField ++ part).length)
            = (fields.flatMap writeField).length + extra := by
          simp only [List.length_append]
          omega
        rw [hleft, ih hfields]
    · simp only [List.length_append] at hshorter ⊢
      omega

/-- Of captured fields, those that fit are read up to the one that names the topic. -/
theorem binaryFields_take (hfits : ∀ f ∈ fields, Fits f) (body : List UInt8) (cut : Nat) :
    binaryFields (fields.flatMap writeField).length ((fields.flatMap writeField ++ body).take cut) =
      upToTopic (captured writeField cut fields) := by
  obtain ⟨part, htake, hpart⟩ := exists_take_flatMap writeField cut fields body
  obtain ⟨more, hmore⟩ := prefix_captured writeField cut fields
  have hlength : (fields.flatMap writeField).length =
      ((captured writeField cut fields).flatMap writeField).length +
        (more.flatMap writeField).length := by
    rw [← List.length_append, ← List.flatMap_append, hmore]
  have hcaptured : ∀ f ∈ captured writeField cut fields, Fits f := fun f hf ↦
    hfits f ((prefix_captured writeField cut fields).subset hf)
  rw [hlength, htake]
  refine binaryFields_write hcaptured ?_
  rcases hpart with ⟨hall, -⟩ | ⟨f, hf, hbegins, hshort⟩
  · left
    have hnil : more = [] := List.append_cancel_left (hmore.trans (hall.symm.trans (by simp)))
    rw [hnil]
    rfl
  · exact .inr (binaryField?_of_cut (hfits f hf) hbegins hshort)

/-- The value of the first field that names the topic. -/
def firstTopic? (fields : List (String × String)) : Option String :=
  (fields.find? fun field ↦ field.1 = "topic" || field.1 = "b").map Prod.snd

/-- Fewer of the first fields name the same topic, or none. -/
theorem firstTopic?_of_prefix {more : List (String × String)} (h : fields <+: more) :
    firstTopic? fields = firstTopic? more ∨ firstTopic? fields = none := by
  cases hfound : fields.find? fun field ↦ field.1 = "topic" || field.1 = "b" with
  | none => exact .inr (congrArg (Option.map Prod.snd) hfound)
  | some field =>
    left
    rw [firstTopic?, firstTopic?, hfound, h.find?_eq_some hfound]

theorem topic?_foldl_upToTopic {h : Header} (htopic : h.extFields.find? "topic" = none)
    (hb : h.extFields.find? "b" = none) :
    topic? { h with
      extFields := (upToTopic fields).foldl (fun f e ↦ f.insert e.1 e.2) h.extFields } =
      firstTopic? fields := by
  induction fields generalizing h with
  | nil => rw [topic?, upToTopic, List.foldl_nil, htopic, hb]; rfl
  | cons field fields ih =>
    obtain ⟨key, value⟩ := field
    by_cases hkey : key = "topic"
    · subst hkey
      show ((h.extFields.insert "topic" value).find? "topic").orElse _ = some value
      rw [Fields.find?_insert_self]
      rfl
    by_cases hkey' : key = "b"
    · subst hkey'
      show ((h.extFields.insert "b" value).find? "topic").orElse
        (fun _ ↦ (h.extFields.insert "b" value).find? "b") = some value
      rw [Fields.find?_insert_of_ne _ hkey, htopic, Fields.find?_insert_self]
      rfl
    · have hother : isTopicKey key = false := by simp [isTopicKey, hkey, hkey']
      have hfirst : firstTopic? ((key, value) :: fields) = firstTopic? fields := by
        simp [firstTopic?, hkey, hkey']
      rw [hfirst, upToTopic, hother]
      exact ih (h := { h with extFields := h.extFields.insert key value })
        ((Fields.find?_insert_of_ne _ hkey value).trans htopic)
        ((Fields.find?_insert_of_ne _ hkey' value).trans hb)

/-- The topic is found where reading ended. No field before that one has its key, so it does not
matter that of equal keys the last counts. -/
theorem topic?_upToTopic {h : Header} (hfields : h.extFields = Fields.ofList (upToTopic fields)) :
    h.topic? = firstTopic? fields := by
  have htopic : topic? { h with extFields := Fields.ofList (upToTopic fields) } =
      firstTopic? fields := topic?_foldl_upToTopic (h := { h with extFields := ∅ }) rfl rfl
  rw [topic?, hfields]
  exact htopic

end Header

/-! ### Frames -/

/-- A command whose lengths can be written: that of a key has 16 bits, and those of the remark and
of all extra fields together have 32. -/
structure Command where
  /-- The call of a request, the outcome of a response. -/
  code : Int16
  /-- The language of the sender. -/
  language : UInt8
  /-- The version of the sender. -/
  version : Int16
  /-- The number that ties a response to its request. -/
  opaqueId : Int32
  /-- What kind of command it is. -/
  flag : Int32
  /-- A remark, empty where there is none. -/
  remark : String
  /-- The extra fields. -/
  fields : List (String × String)
  /-- The length of a key can be written. -/
  length_key : ∀ f ∈ fields, (Utf8.bytes f.1).length < 0x10000
  /-- The length of the remark can be written. -/
  length_remark : (Utf8.bytes remark).length < 0x100000000
  /-- The length of the extra fields can be written. -/
  length_fields : (fields.flatMap Header.writeField).length < 0x100000000

namespace Command

open Header

variable (c : Command)

/-- The length of the header: its numbers, the remark and the extra fields. -/
def headerLength : Nat :=
  21 + (Utf8.bytes c.remark).length + (c.fields.flatMap writeField).length

/-- The numbers of a frame, each with how many bytes it has: the length of the frame, the way the
header is written and its length, and then those of the header. -/
def numbers : List (Nat × Nat) := [
  (4, 4 + c.headerLength), (1, 1), (3, c.headerLength),
  (2, c.code.toBitVec.toNat), (1, c.language.toNat), (2, c.version.toBitVec.toNat),
  (4, c.opaqueId.toBitVec.toNat), (4, c.flag.toBitVec.toNat),
  (4, (Utf8.bytes c.remark).length), (4, (c.fields.flatMap writeField).length)]

/-- A frame without a body. -/
def write : List UInt8 :=
  writeUints c.numbers ++ Utf8.bytes c.remark ++ c.fields.flatMap writeField

theorem length_numbers : (writeUints c.numbers).length = minFrame := by
  simp [writeUints, numbers, minFrame]

theorem fits {f : String × String} (hf : f ∈ c.fields) : Fits f := by
  have hlength : (writeField f).length ≤ (c.fields.flatMap writeField).length :=
    (List.sublist_flatten_of_mem (List.mem_map_of_mem hf)).length_le
  refine ⟨c.length_key f hf, Nat.lt_of_le_of_lt (Nat.le_trans ?_ hlength) c.length_fields⟩
  simp only [writeField, writeBlock, List.length_append]
  omega

/-- The numbers of a frame are read, whatever follows them, and tell what of it is the remark and
what the extra fields. -/
theorem ofFrame?_numbers (rest : List UInt8) :
    ofFrame? (writeUints c.numbers ++ rest) = some {
      code := c.code.toInt
      opaqueId := c.opaqueId.toInt
      remark := if (Utf8.bytes c.remark).length = 0 then none
        else some (Utf8.lossy (rest.take (Utf8.bytes c.remark).length))
      extFields := Fields.ofList (binaryFields (c.fields.flatMap writeField).length
        (rest.drop (Utf8.bytes c.remark).length)) } := by
  have hlong : ¬ (writeUints c.numbers ++ rest).length < minFrame := by
    rw [List.length_append, length_numbers]
    omega
  have hbehind (size : Nat) :
      (writeUints c.numbers ++ rest).drop (minFrame + size) = rest.drop size := by
    rw [← c.length_numbers, List.drop_length_add_append]
  have hstart : (writeUints c.numbers ++ rest).drop minFrame = rest := hbehind 0
  have hkind : uint? (writeUints c.numbers ++ rest) 4 1 = some 1 :=
    uint?_writeUints (show c.numbers[1]? = _ from rfl) (by decide) rest
  have hcode : int? (writeUints c.numbers ++ rest) 8 2 = some c.code.toInt :=
    int?_writeUints 2 c.code.toBitVec (show c.numbers[3]? = _ from rfl) rest
  have hopaque : int? (writeUints c.numbers ++ rest) 13 4 = some c.opaqueId.toInt :=
    int?_writeUints 4 c.opaqueId.toBitVec (show c.numbers[6]? = _ from rfl) rest
  have hremark : uint? (writeUints c.numbers ++ rest) 21 4 = some (Utf8.bytes c.remark).length :=
    uint?_writeUints (show c.numbers[8]? = _ from rfl) c.length_remark rest
  have hfields : uint? (writeUints c.numbers ++ rest) 25 4 =
      some (c.fields.flatMap writeField).length :=
    uint?_writeUints (show c.numbers[9]? = _ from rfl) c.length_fields rest
  rw [ofFrame?, if_neg hlong, hkind]
  show ofBinary? _ = _
  simp only [ofBinary?, hcode, hopaque, hremark, hfields, hstart, hbehind, Option.bind_eq_bind,
    Option.bind_some]

/-- **A capture of a frame is read as far as it goes**: the beginning of the remark, and the extra
fields that were captured whole. -/
theorem ofFrame?_take (body : List UInt8) {cut : Nat} (hcut : minFrame ≤ cut) :
    ofFrame? ((c.write ++ body).take cut) = some {
      code := c.code.toInt
      opaqueId := c.opaqueId.toInt
      remark := if (Utf8.bytes c.remark).length = 0 then none
        else some (Utf8.lossy ((Utf8.bytes c.remark).take (cut - minFrame)))
      extFields := Fields.ofList (upToTopic
        (captured writeField (cut - minFrame - (Utf8.bytes c.remark).length) c.fields)) } := by
  have hcapture : (c.write ++ body).take cut = writeUints c.numbers ++
      (Utf8.bytes c.remark ++ (c.fields.flatMap writeField ++ body)).take (cut - minFrame) := by
    rw [write, List.append_assoc, List.append_assoc, List.take_append, length_numbers,
      List.take_of_length_le (c.length_numbers.trans_le hcut)]
  have hremark : ((Utf8.bytes c.remark ++ (c.fields.flatMap writeField ++ body)).take
      (cut - minFrame)).take (Utf8.bytes c.remark).length =
        (Utf8.bytes c.remark).take (cut - minFrame) := by
    rw [List.take_take, Nat.min_comm, ← List.take_take, List.take_left]
  rw [hcapture, ofFrame?_numbers, hremark, List.drop_take, List.drop_left,
    binaryFields_take fun f ↦ c.fits]

/-- **A frame is read back**, whatever body follows it. -/
theorem ofFrame?_write (body : List UInt8) :
    ofFrame? (c.write ++ body) = some {
      code := c.code.toInt
      opaqueId := c.opaqueId.toInt
      remark := if c.remark = "" then none else some c.remark
      extFields := Fields.ofList (upToTopic c.fields) } := by
  have hempty : (Utf8.bytes c.remark).length = 0 ↔ c.remark = "" := by
    rw [List.length_eq_zero_iff, Utf8.bytes_eq_nil_iff]
  have hread : binaryFields (c.fields.flatMap writeField).length
      (c.fields.flatMap writeField ++ body) = upToTopic c.fields :=
    binaryFields_write (fun f ↦ c.fits) (.inl rfl)
  rw [write, List.append_assoc, List.append_assoc, ofFrame?_numbers, List.take_left,
    List.drop_left, hread, Utf8.lossy_bytes]
  simp only [hempty]

/-- **A binary header survives a cut.** A frame is read back with its code, its number, its remark
and the topic that its first extra field named `topic` or `b` gives, whatever body follows. Cut off
anywhere behind its numbers it is read as well, with the same code and number, and its topic is the
same or none: no part of a field, of the remark or of the body is taken for another topic. -/
theorem header_of_capture (body : List UInt8) :
    (∃ h, ofFrame? (c.write ++ body) = some h ∧
      h.code = c.code.toInt ∧ h.opaqueId = c.opaqueId.toInt ∧
      h.remark = (if c.remark = "" then none else some c.remark) ∧
      h.topic? = firstTopic? c.fields) ∧
    ∀ cut, minFrame ≤ cut → ∃ h, ofFrame? ((c.write ++ body).take cut) = some h ∧
      h.code = c.code.toInt ∧ h.opaqueId = c.opaqueId.toInt ∧
      (h.topic? = firstTopic? c.fields ∨ h.topic? = none) := by
  refine ⟨⟨_, c.ofFrame?_write body, rfl, rfl, rfl, topic?_upToTopic rfl⟩, fun cut hcut ↦ ?_⟩
  refine ⟨_, c.ofFrame?_take body hcut, rfl, rfl, ?_⟩
  rw [topic?_upToTopic rfl]
  exact firstTopic?_of_prefix (prefix_captured writeField _ c.fields)

/-- A capture that ends within the last character of the topic, with a body behind the frame that
looks like another topic. -/
theorem header_of_capture_within_topic :
    let c : Command := {
      code := 310, language := 0, version := 412, opaqueId := -2, flag := 0, remark := "é"
      fields := [("a", "group"), ("b", "Tä")]
      length_key := by decide +kernel
      length_remark := by decide +kernel
      length_fields := by decide +kernel }
    let body := writeField ("topic", "X")
    minFrame ≤ 52 ∧
      (∃ h, ofFrame? (c.write ++ body) = some h ∧ h.code = 310 ∧ h.opaqueId = -2 ∧
        h.remark = some "é" ∧ h.topic? = some "Tä") ∧
      ∃ h, ofFrame? ((c.write ++ body).take 52) = some h ∧ h.code = 310 ∧ h.opaqueId = -2 ∧
        h.topic? = none := by
  intro c body
  have hcut : minFrame ≤ 52 := by decide
  obtain ⟨hwhole, hcaptured⟩ := header_of_capture c body
  obtain ⟨h, hread, hcode, hopaque, -⟩ := hcaptured 52 hcut
  have hnone : (ofFrame? ((c.write ++ body).take 52)).map topic? = some none := by decide +kernel
  rw [hread] at hnone
  exact ⟨hcut, hwhole, h, hread, hcode, hopaque, Option.some.inj hnone⟩

end Command

end SocketWatch.Wire.RocketMq
