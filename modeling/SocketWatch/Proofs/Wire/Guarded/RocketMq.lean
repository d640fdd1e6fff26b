import SocketWatch.Proofs.Wire.Guarded.Basic
import SocketWatch.Wire.RocketMq
/-!
# RocketMQ by position

The lengths in a frame have up to 32 bits, so sums with them are far from leaving the word, though
they may be far behind the end of the capture. The extra fields of a binary header are read in a
loop that goes on as long as its position is before the end of the fields. Each turn puts the
position further on, by the lengths of key and value at the least, and keeps it within the capture,
so no more turns are made than there are bytes (`guardedFields_eq`).
-/

namespace SocketWatch.Wire.RocketMq

open Guarded

variable {data : List UInt8} {m : Message} {offset stop : Nat}

namespace Header

/-- An extra field and the position behind it. -/
def guardedField (data : List UInt8) (offset : Nat) : Guarded ((String × String) × Nat) := do
  let keyLength ← uint data offset 2
  let keyStart ← add offset 2
  let keyStop ← add keyStart keyLength
  let key ← ofOption (range? data keyStart keyStop)
  let textLength ← uint data keyStop 4
  let textStart ← add keyStop 4
  let text ← ofOption (range? data textStart (addCapped textStart textLength))
  let next ← add textStart text.length
  return ((Utf8.lossy key, Utf8.lossy text), next)

/-- The extra fields from a position up to another, in so many turns. -/
def guardedFields (data : List UInt8) (stop : Nat) :
    Nat → Nat → Guarded (List (String × String))
  | 0, _ => fault .endless
  | turns + 1, offset =>
    if offset < stop then do
      let read ← (guardedField data offset).attempt
      match read with
      | none => value []
      | some (field, next) =>
        if isTopicKey field.1 then value [field]
        else do
          let fields ← guardedFields data stop turns next
          return field :: fields
    else value []

/-- The remark, and the position behind it. -/
def guardedRemark (data : List UInt8) (length : Nat) : Guarded (Option String × Nat) :=
  if 0 < length then do
    let remark ← getData data minFrame length
    return (some (Utf8.lossy remark), addCapped minFrame length)
  else value (none, minFrame)

/-- The header a binary frame gives. -/
def guardedBinary (data : List UInt8) : Guarded Header := do
  let code ← int data 8 2
  let opaqueId ← int data 13 4
  let remarkLength ← uint data 21 4
  let extLength ← uint data 25 4
  let remark ← guardedRemark data remarkLength
  let stop := min (addCapped remark.2 extLength) data.length
  let fields ← guardedFields data stop (data.length + 1) remark.2
  return { code, opaqueId, remark := remark.1, extFields := Fields.ofList fields }

/-- The header of a frame. -/
def guardedHeader (data : List UInt8) : Guarded Header :=
  if data.length < minFrame then refused
  else match byte? data 4 with
    | some 0 => do
      let length ← uint data 4 4
      let stop ← add headerStart length
      let json ← ofOption (range? data headerStart stop)
      ofOption (Json.parseBytes? json >>= ofJson?)
    | some 1 => guardedBinary data
    | _ => refused

end Header

/-- Read a request. -/
def guardedRequest (m : Message) : Guarded Message := do
  let h ← Header.guardedHeader m.data
  let name := requestName h.code
  let key := h.topic?.elim name fun t ↦ "Topic:" ++ t
  return (((m.seek m.data.length).putText Label.rocketmqRequestMsg name).putInt
    Label.rocketmqOpaque h.opaqueId).putText Label.contentKey key

/-- Read a response, which must carry the number of its request. -/
def guardedResponse (m : Message) : Guarded Message := do
  let h ← Header.guardedHeader m.data
  if !m.attributes.contains Label.rocketmqOpaque
      || (m.attributes.getInt Label.rocketmqOpaque).toInt ≠ h.opaqueId then refused
  else
    let m := (m.seek m.data.length).putInt Label.rocketmqErrorCode h.code
    value (if 0 < h.code then
      (m.putText Label.rocketmqErrorMsg (errorText h.code h.remark)).protocolError
    else m)

namespace Header

/-- A block is a length and as many bytes, by position. -/
theorem block?_drop (size : Nat) (hoffset : offset ≤ data.length) :
    block? size (data.drop offset) = (uint? data offset size).bind fun length ↦
      (slice? data (offset + size) length).map fun block ↦
        (block, data.drop (offset + size + length)) := by
  have hlength : uint? (data.drop offset) 0 size = uint? data offset size := by
    rw [uint?, slice?_drop hoffset]
    rfl
  rw [block?, hlength]
  refine congrArg _ (funext fun length ↦ ?_)
  rw [slice?_drop hoffset, List.drop_drop, ← Nat.add_assoc, Option.map_eq_bind]
  rfl

theorem guardedField_eq (hdata : Captured data) (hoffset : offset ≤ data.length) :
    guardedField data offset = ofOption ((binaryField? (data.drop offset)).map (placed data)) := by
  have hlength := hdata.length_lt
  rw [guardedField, uint_eq (by omega), binaryField?]
  show _ = ofOption (Option.map _ (Option.bind (block? 2 (data.drop offset)) _))
  rw [block?_drop 2 hoffset, Option.map_bind, Option.bind_assoc]
  refine ofOption_bind fun keyLength hkeyLength ↦ ?_
  have hkeyLength : keyLength < 0x10000 := uint?_lt hkeyLength
  rw [add_eq (by omega), value_bind, add_eq (by omega), value_bind, range?_add, Option.bind_map]
  refine ofOption_bind fun key hkey ↦ ?_
  have hkeyStop := (length_of_slice? hkey).2
  rw [uint_eq (by omega)]
  show _ = ofOption (Option.map _ (Option.bind (block? 4 (data.drop _)) _))
  rw [block?_drop 4 hkeyStop, Option.map_bind, Option.bind_assoc]
  refine ofOption_bind fun textLength htextLength ↦ ?_
  have htextLength : textLength < 0x100000000 := uint?_lt htextLength
  have hcap := addCapped_eq (offset + 2 + keyLength + 4) textLength
  rw [Nat.min_eq_left (by omega)] at hcap
  rw [add_eq (by omega), value_bind, hcap, range?_add, Option.bind_map]
  refine ofOption_bind fun text htext ↦ ?_
  obtain ⟨rfl, htextStop⟩ := length_of_slice? htext
  rw [add_eq (by omega), value_bind]
  show value _ = value (placed data (_, data.drop _))
  rw [placed_drop htextStop]

theorem suffix_of_block? {size : Nat} {bs block rest : List UInt8}
    (h : block? size bs = some (block, rest)) : rest <:+ bs := by
  obtain ⟨length, -, h⟩ := Option.bind_eq_some_iff.1 h
  obtain ⟨block, -, h⟩ := Option.bind_eq_some_iff.1 h
  cases h
  exact List.drop_suffix _ _

theorem suffix_of_binaryField? {bs rest : List UInt8} {field : String × String}
    (h : binaryField? bs = some (field, rest)) : rest <:+ bs := by
  obtain ⟨⟨key, r⟩, hkey, h⟩ := Option.bind_eq_some_iff.1 h
  obtain ⟨⟨text, r'⟩, htext, h⟩ := Option.bind_eq_some_iff.1 h
  cases h
  exact (suffix_of_block? htext).trans (suffix_of_block? hkey)

theorem binaryFields_of_none {left : Nat} {bs : List UInt8} (h : binaryField? bs = none) :
    binaryFields left bs = [] := by
  rw [binaryFields]
  split
  · rfl
  · split
    · rfl
    · simp_all

theorem binaryFields_of_some {left : Nat} {bs rest : List UInt8} {field : String × String}
    (hleft : left ≠ 0) (h : binaryField? bs = some (field, rest)) :
    binaryFields left bs = if isTopicKey field.1 then [field]
      else field :: binaryFields (left - (bs.length - rest.length)) rest := by
  rw [binaryFields, if_neg hleft]
  split
  · simp_all
  · simp_all

/-- **The loop ends**, and gives what is read off the front. Each turn puts the position further on,
and keeps it within the capture. `left` is what the reader of what is left counts down; from the
position on, both come to their end at the same place. -/
theorem guardedFields_eq (hdata : Captured data) (left : Nat) {turns : Nat}
    (hturns : data.length - offset < turns)
    (hstop : ∀ i, offset ≤ i → (i < stop ↔ i < offset + left ∧ i < data.length)) :
    guardedFields data stop turns offset = value (binaryFields left (data.drop offset)) := by
  induction turns generalizing offset left with
  | zero => omega
  | succ turns ih =>
    have hhere := hstop offset (Nat.le_refl _)
    rw [guardedFields]
    split
    · rw [guardedField_eq hdata (by omega), attempt_ofOption, value_bind]
      cases hfield : binaryField? (data.drop offset) with
      | none =>
        rw [binaryFields_of_none hfield]
        rfl
      | some read =>
        obtain ⟨field, rest⟩ := read
        have hsuffix := (suffix_of_binaryField? hfield).trans (List.drop_suffix _ _)
        have hshorter := length_lt_of_binaryField? hfield
        rw [List.length_drop] at hshorter
        rw [binaryFields_of_some (by omega) hfield]
        have hnext : data.drop (data.length - rest.length) = rest :=
          (List.suffix_iff_eq_drop.1 hsuffix).symm
        show (if isTopicKey field.1 then value [field] else
          guardedFields data stop turns (data.length - rest.length) >>= _) = _
        refine ite_value (fun _ ↦ rfl) fun _ ↦ ?_
        have hrest : ∀ i, data.length - rest.length ≤ i → (i < stop ↔
            i < data.length - rest.length + (left - ((data.drop offset).length - rest.length)) ∧
              i < data.length) := by
          intro i hi
          have hthere := hstop i (by omega)
          rw [List.length_drop]
          omega
        rw [ih _ (by omega) hrest, hnext]
        rfl
    · rcases Nat.lt_or_ge offset data.length with hlt | hge
      · have hleft : left = 0 := by omega
        rw [hleft, binaryFields, if_pos rfl]
      · have hnone : binaryField? (data.drop offset) = none := by
          rw [List.drop_eq_nil_of_le hge]
          rfl
        rw [binaryFields_of_none hnone]

theorem guardedRemark_eq (hdata : Captured data) {length : Nat} (hlength : length < 0x100000000) :
    guardedRemark data length = value
      (if length = 0 then none else some (Utf8.lossy ((data.drop minFrame).take length)),
        minFrame + length) := by
  have hcap := addCapped_eq minFrame length
  have hframe : minFrame = 29 := rfl
  rw [Nat.min_eq_left (by omega)] at hcap
  rw [guardedRemark]
  split
  · rw [getData_eq hdata, value_bind, hcap, if_neg (by omega)]
    rfl
  · obtain rfl : length = 0 := by omega
    rfl

theorem guardedBinary_eq (hdata : Captured data) :
    guardedBinary data = ofOption (ofBinary? data) := by
  have hlength := hdata.length_lt
  have hframe : minFrame = 29 := rfl
  rw [guardedBinary, ofBinary?, int_eq (by decide)]
  refine ofOption_bind fun code _ ↦ ?_
  rw [int_eq (by decide)]
  refine ofOption_bind fun opaqueId _ ↦ ?_
  rw [uint_eq (by decide)]
  refine ofOption_bind fun remarkLength hremark ↦ ?_
  rw [uint_eq (by decide)]
  refine ofOption_bind fun extLength hext ↦ ?_
  have hremark : remarkLength < 0x100000000 := uint?_lt hremark
  have hext : extLength < 0x100000000 := uint?_lt hext
  have hcap := addCapped_eq (minFrame + remarkLength) extLength
  rw [guardedRemark_eq hdata hremark, value_bind]
  simp only
  rw [guardedFields_eq hdata extLength (by omega) (fun i _ ↦ by omega), value_bind]
  rfl

/-- The header in a frame is JSON as far as the frame says. -/
theorem guardedHeader_eq (hdata : Captured data) :
    guardedHeader data = ofOption (ofFrame? data) := by
  rw [guardedHeader, ofFrame?, uint?_one_eq]
  refine ite_ofOption (fun _ ↦ rfl) fun _ ↦ ?_
  cases byte? data 4 with
  | none => rfl
  | some b =>
    by_cases hjson : b = 0
    · subst hjson
      show (uint data 4 4 >>= _) = ofOption ((uint? data 4 4).bind _)
      rw [uint_eq (by decide)]
      refine ofOption_bind fun length hlength ↦ ?_
      have hlength : length < 0x100000000 := uint?_lt hlength
      have hroom : headerStart + length < 0x10000000000000000 := by
        show 8 + length < _
        omega
      rw [add_eq hroom, value_bind, range?_add]
      exact ofOption_bind fun _ _ ↦ rfl
    · by_cases hbinary : b = 1
      · subst hbinary
        exact guardedBinary_eq hdata
      · have hjson' : b.toNat ≠ 0 := toNat_ne hjson
        have hbinary' : b.toNat ≠ 1 := toNat_ne hbinary
        simp [hjson, hbinary, hjson', hbinary']

end Header

theorem guardedRequest_eq (hm : Captured m.data) : guardedRequest m = ofOption (request? m) := by
  rw [guardedRequest, Header.guardedHeader_eq hm]
  exact ofOption_bind fun _ _ ↦ rfl

theorem guardedResponse_eq (hm : Captured m.data) :
    guardedResponse m = ofOption (response? m) := by
  rw [guardedResponse, Header.guardedHeader_eq hm]
  refine ofOption_bind fun h _ ↦ ?_
  exact ite_ofOption (fun _ ↦ rfl) fun _ ↦ rfl

end SocketWatch.Wire.RocketMq
