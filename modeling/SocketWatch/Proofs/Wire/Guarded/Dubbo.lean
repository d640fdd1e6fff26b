import SocketWatch.Proofs.Wire.Guarded.Basic
import SocketWatch.Wire.Dubbo
/-!
# Dubbo by position

The texts of a call follow one another, and each says in its own way where it ends. A text that the
capture cuts off ends with the capture, so the position behind a text is never behind the end, and
the next text can be read from there (`guardedText_eq`).
-/

namespace SocketWatch.Wire.Dubbo

open Guarded

variable {data : List UInt8} {m : Message} {offset start size : Nat}

namespace Serializer

/-- So many bytes from a position, as far as they were captured, and the position behind them. -/
def cut (data : List UInt8) (start size : Nat) : Guarded (List UInt8 × Nat) := do
  let behind ← add start size
  let stop := min behind data.length
  let text ← range data (min start stop) stop
  return (text, stop)

/-- A text of Hessian 2 and the position behind it. -/
def hessianText (data : List UInt8) (offset : Nat) : Guarded (List UInt8 × Nat) := do
  let tag ← byte data offset
  let next ← add offset 1
  if 0x30 ≤ tag && tag ≤ 0x33 then
    match byte? data next with
    | none => value ([], data.length)
    | some low => do
      let start ← add offset 2
      let high ← sub tag.toNat 0x30
      let size ← add (high * 256) low.toNat
      cut data start size
  else cut data next tag.toNat

/-- A text of JSON and the position behind the quote and the line feed that end it. -/
def jsonText (data : List UInt8) (offset : Nat) : Guarded (List UInt8 × Nat) := do
  let rest ← range data offset data.length
  match rest.findIdx? (· = 0x22) with
  | none => value ([], data.length)
  | some pos => do
    let opening ← add offset pos
    let start ← add opening 1
    let tail := (range? data start data.length).getD []
    let size := (tail.findIdx? (· = 0x22)).getD tail.length
    let text ← range tail 0 size
    let closing ← add start size
    let behind ← add closing 2
    return (text, min behind data.length)

/-- The text at a position and the position behind it. -/
def guardedText (s : Serializer) (data : List UInt8) (offset : Nat) :
    Guarded (List UInt8 × Nat) :=
  if data.length ≤ offset then value ([], data.length)
  else match s with
  | .hessian2 => hessianText data offset
  | .fastJson => jsonText data offset

theorem cut_eq (hdata : Captured data) (hstart : start ≤ data.length) (hsize : size < 0x10000) :
    cut data start size =
      value (placed data ((data.drop start).take size, (data.drop start).drop size)) := by
  have hlength := hdata.length_lt
  have hfirst : min start (min (start + size) data.length) = start := by omega
  -- a text that the capture cuts off is as long as the capture allows, in both readers
  rw [cut, add_eq (by omega), value_bind]
  simp only
  rw [hfirst, range_eq (by omega) (by omega), value_bind, pure_eq, List.drop_drop, placed_drop_min]
  congr 2
  rw [List.take_eq_take_iff, List.length_drop]
  omega

theorem text_hessian2 (tag : UInt8) (rest : List UInt8) :
    text .hessian2 (tag :: rest) =
      if 0x30 ≤ tag && tag ≤ 0x33 then match rest with
        | [] => ([], [])
        | low :: rest =>
          (rest.take ((tag.toNat - 0x30) * 256 + low.toNat),
            rest.drop ((tag.toNat - 0x30) * 256 + low.toNat))
      else (rest.take tag.toNat, rest.drop tag.toNat) := rfl

theorem text_fastJson (bs : List UInt8) :
    text .fastJson bs =
      let body := (bs.dropWhile (· ≠ 0x22)).drop 1
      let value := body.takeWhile (· ≠ 0x22)
      (value, body.drop (value.length + 2)) := by
  cases bs <;> rfl

theorem hessianText_eq (hdata : Captured data) (h : offset < data.length) :
    hessianText data offset = value (placed data (text .hessian2 (data.drop offset))) := by
  have hlength := hdata.length_lt
  have htag := data[offset].toNat_lt
  rw [hessianText, byte_eq h, value_bind, add_eq (by omega), value_bind,
    List.drop_eq_getElem_cons h, text_hessian2]
  by_cases hlong : (0x30 ≤ data[offset] && data[offset] ≤ 0x33) = true
  · have hlow : 0x30 ≤ data[offset].toNat := by
      simp at hlong
      exact UInt8.le_iff_toNat_le.1 hlong.1
    rw [if_pos hlong, if_pos hlong]
    rcases Nat.lt_or_ge (offset + 1) data.length with hlt | hge
    · have hbyte : byte? data (offset + 1) = some data[offset + 1] := List.getElem?_eq_getElem hlt
      have hnext := data[offset + 1].toNat_lt
      rw [hbyte, List.drop_eq_getElem_cons hlt]
      simp only
      rw [add_eq (by omega), value_bind, sub_eq hlow, value_bind, add_eq (by omega), value_bind]
      exact cut_eq hdata hlt (by omega)
    · have hbyte : byte? data (offset + 1) = none := List.getElem?_eq_none hge
      rw [hbyte, List.drop_eq_nil_of_le hge]
      rfl
  · rw [if_neg hlong, if_neg hlong]
    exact cut_eq hdata h (by omega)

theorem jsonText_eq (hdata : Captured data) (h : offset < data.length) :
    jsonText data offset = value (placed data (text .fastJson (data.drop offset))) := by
  have hlength := hdata.length_lt
  have hrest : (data.drop offset).length = data.length - offset := List.length_drop
  rw [jsonText, range_length (Nat.le_of_lt h), value_bind, text_fastJson]
  simp only [dropWhile_ne, List.findIdx_eq_getD_findIdx?]
  cases hpos : (data.drop offset).findIdx? (· = 0x22) with
  | none =>
    rw [Option.getD_none, List.drop_length]
    rfl
  | some pos =>
    obtain ⟨hlt, -⟩ := List.findIdx?_eq_some_iff_findIdx_eq.1 hpos
    have hbody : ((data.drop offset).drop pos).drop 1 = data.drop (offset + pos + 1) := by
      rw [List.drop_drop, List.drop_drop, Nat.add_assoc]
    simp only [Option.getD_some]
    rw [hbody, add_eq (by omega), value_bind, add_eq (by omega), value_bind,
      range?_length (by omega), Option.getD_some, ← List.findIdx_eq_getD_findIdx?]
    have hsize : (data.drop (offset + pos + 1)).findIdx (· = 0x22) ≤
      (data.drop (offset + pos + 1)).length := List.findIdx_le_length
    have htail : (data.drop (offset + pos + 1)).length = data.length - (offset + pos + 1) :=
      List.length_drop
    rw [takeWhile_ne]
    generalize (data.drop (offset + pos + 1)).findIdx (· = 0x22) = size at hsize
    have htaken : ((data.drop (offset + pos + 1)).take size).length = size := by
      rw [List.length_take]
      omega
    have hbehind : (data.drop (offset + pos + 1)).drop (size + 2) =
        data.drop (offset + pos + 1 + size + 2) := by
      rw [List.drop_drop, ← Nat.add_assoc]
    rw [range_eq (Nat.zero_le _) hsize, value_bind, add_eq (by omega), value_bind,
      add_eq (by omega), value_bind, htaken, hbehind, placed_drop_min]
    rfl

theorem guardedText_eq (hdata : Captured data) (s : Serializer) (offset : Nat) :
    guardedText s data offset = value (placed data (s.text (data.drop offset))) := by
  unfold guardedText
  rcases Nat.lt_or_ge offset data.length with hlt | hge
  · rw [if_neg (Nat.not_le.2 hlt)]
    cases s with
    | hessian2 => exact hessianText_eq hdata hlt
    | fastJson => exact jsonText_eq hdata hlt
  · rw [if_pos hge, List.drop_eq_nil_of_le hge]
    cases s <;> rfl

/-- A text is read off the front. -/
theorem text_suffix (s : Serializer) (bs : List UInt8) : (s.text bs).2 <:+ bs := by
  cases s with
  | hessian2 =>
    cases bs with
    | nil => exact List.suffix_refl _
    | cons tag rest =>
      rw [text_hessian2]
      split
      · cases rest with
        | nil => exact List.nil_suffix
        | cons low rest =>
          exact (List.drop_suffix _ _).trans
            ((List.suffix_cons _ _).trans (List.suffix_cons _ _))
      · exact (List.drop_suffix _ _).trans (List.suffix_cons _ _)
  | fastJson =>
    rw [text_fastJson]
    exact (List.drop_suffix _ _).trans
      ((List.drop_suffix _ _).trans (List.dropWhile_suffix _))

end Serializer

/-! ### Frames -/

/-- The service and the method that a body calls. -/
def guardedCall (s : Serializer) (data : List UInt8) :
    Guarded (List UInt8 × List UInt8) := do
  let version ← s.guardedText data headerLength
  let service ← s.guardedText data version.2
  let serviceVersion ← s.guardedText data service.2
  let method ← s.guardedText data serviceVersion.2
  return (service.1, method.1)

/-- What a request is about. -/
def guardedKey (data : List UInt8) : Guarded String := do
  let b ← byte data 2
  let flags := Flags.ofByte b
  if flags.serialization = 0 then refused
  else if flags.isEvent then value "Heartbeat"
  else if !flags.isRequest then refused
  else if !flags.isTwoWay then value "Oneway"
  else match Serializer.ofId? flags.serialization with
    | none => value "UnSupportSerialFormat"
    | some s => do
      let call ← guardedCall s data
      return Utf8.lossy call.1 ++ "#" ++ Utf8.lossy call.2

/-- Whether a message starts with a header. -/
def guardedHeader (data : List UInt8) : Guarded Bool :=
  if headerLength ≤ data.length then do
    let start ← getData data 0 2
    return start = magic
  else value false

/-- Read a request. -/
def guardedRequest (m : Message) : Guarded Message := do
  let header ← guardedHeader m.data
  if !header then refused
  else do
    let key ← guardedKey m.data
    return (m.seek headerLength).putText Label.contentKey key

/-- Read a response. -/
def guardedResponse (m : Message) : Guarded Message := do
  let header ← guardedHeader m.data
  if !header then refused
  else do
    let b ← byte m.data 2
    let flags := Flags.ofByte b
    if flags.serialization = 0 then refused
    else do
      let status ←
        if flags.isEvent then value statusOk
        else if flags.isRequest then refused
        else byte m.data 3
      return ((m.seek headerLength).putInt Label.dubboErrorCode status.toNat).protocolErrorIf
        (statusOk < status)

theorem guardedCall_eq (hdata : Captured data) (s : Serializer) :
    guardedCall s data = value (call s (data.drop headerLength)) := by
  have hnext : ∀ bs, bs <:+ data → data.drop (placed data (s.text bs)).2 = (s.text bs).2 :=
    fun bs hbs ↦ drop_placed ((s.text_suffix bs).trans hbs)
  have hbody : data.drop headerLength <:+ data := List.drop_suffix _ _
  have hversion := (s.text_suffix _).trans hbody
  have hservice := (s.text_suffix _).trans hversion
  unfold guardedCall
  rw [s.guardedText_eq hdata, value_bind, s.guardedText_eq hdata, value_bind,
    s.guardedText_eq hdata, value_bind, s.guardedText_eq hdata, value_bind, hnext _ hbody,
    hnext _ hversion, hnext _ hservice]
  rfl

/-- A message with a header has bytes for the flags and the status. -/
theorem header_cases (hdata : Captured data) :
    (guardedHeader data = value false ∧ frame? data = none) ∨
      ∃ flags status, guardedHeader data = value true ∧ byte data 2 = value flags ∧
        byte data 3 = value status ∧
        frame? data = some (.ofByte flags, status, data.drop headerLength) := by
  rcases Nat.lt_or_ge data.length headerLength with hlt | hge
  · refine .inl ⟨if_neg (Nat.not_le.2 hlt), ?_⟩
    rw [frame?, decide_eq_true hlt]
    rfl
  · have hlength : 16 ≤ data.length := hge
    rw [guardedHeader, if_pos hge, getData_eq hdata, value_bind]
    by_cases hmagic : data.take 2 = magic
    · refine .inr ⟨data[2], data[3], ?_, byte_eq (by omega), byte_eq (by omega), ?_⟩
      · exact congrArg value (decide_eq_true hmagic)
      · rw [frame?, if_neg (by simp [hmagic, hge]), List.getElem?_eq_getElem (by omega),
          List.getElem?_eq_getElem (by omega)]
        rfl
    · refine .inl ⟨congrArg value (decide_eq_false hmagic), ?_⟩
      rw [frame?, if_pos (by simp [hmagic])]

theorem guardedKey_eq (hdata : Captured data) {b : UInt8} (hb : byte data 2 = value b) :
    guardedKey data = ofOption (contentKey? (.ofByte b) (data.drop headerLength)) := by
  rw [guardedKey, hb, value_bind, contentKey?]
  refine ite_ofOption (fun _ ↦ rfl) fun _ ↦ ?_
  refine ite_ofOption (fun _ ↦ rfl) fun _ ↦ ?_
  refine ite_ofOption (fun _ ↦ rfl) fun _ ↦ ?_
  refine ite_ofOption (fun _ ↦ rfl) fun _ ↦ ?_
  cases Serializer.ofId? (Flags.ofByte b).serialization with
  | none => rfl
  | some s =>
    simp only
    rw [guardedCall_eq hdata]
    rfl

theorem guardedRequest_eq (hm : Captured m.data) : guardedRequest m = ofOption (request? m) := by
  rw [guardedRequest, request?]
  obtain ⟨hheader, hframe⟩ | ⟨b, status, hheader, hb, -, hframe⟩ := header_cases hm
  · rw [hheader, hframe]
    rfl
  · rw [hheader, hframe, value_bind]
    show (guardedKey m.data >>= _) = ofOption ((contentKey? (.ofByte b) _).bind _)
    rw [guardedKey_eq hm hb]
    exact ofOption_bind fun _ _ ↦ rfl

theorem guardedResponse_eq (hm : Captured m.data) :
    guardedResponse m = ofOption (response? m) := by
  rw [guardedResponse, response?]
  obtain ⟨hheader, hframe⟩ | ⟨b, status, hheader, hb, hstatus, hframe⟩ := header_cases hm
  · rw [hheader, hframe]
    rfl
  · rw [hheader, hframe, value_bind, hb]
    show (if (Flags.ofByte b).serialization = 0 then refused else _) = ofOption (if _ then _ else _)
    rw [hstatus]
    generalize Flags.ofByte b = flags
    by_cases hnone : flags.serialization = 0
    · rw [if_pos hnone, decide_eq_true hnone]
      rfl
    · rw [if_neg hnone, decide_eq_false hnone]
      cases flags.isEvent <;> cases flags.isRequest <;> rfl

end SocketWatch.Wire.Dubbo
