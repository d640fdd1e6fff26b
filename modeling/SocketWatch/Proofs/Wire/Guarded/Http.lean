import SocketWatch.Proofs.Wire.Guarded.Lines
import SocketWatch.Wire.Http
/-!
# HTTP by position

The header block of a message is sliced out at three places that searches find. Of the trace
identifiers only that of Jaeger is sliced without a check, in a text of UTF-8, where a slice must
not cut a character in two. In the start line, the byte before a position is looked at without a
check; the position is one behind a word that was read, so there is a byte before it.
-/

namespace SocketWatch.Wire

namespace Guarded

variable {pattern bs data : List UInt8} {size i : Nat}

/-! ### Header blocks -/

/-- Where a pattern occurs last. -/
def lastPosition? (pattern bs : List UInt8) : Option Nat :=
  let parts := windows pattern.length bs
  (parts.reverse.findIdx? (· = pattern)).map (parts.length - 1 - ·)

theorem slice?_reverse (h : i + size ≤ bs.length) :
    slice? bs.reverse i size = (slice? bs (bs.length - (i + size)) size).map List.reverse := by
  have hsize : bs.length - i - (bs.length - i - size) = size := by omega
  have hstart : bs.length - i - size = bs.length - (i + size) := by omega
  rw [slice?, slice?, List.length_reverse, if_pos h, if_pos (by omega), List.drop_reverse,
    List.take_reverse, List.length_take, Nat.min_eq_left (by omega), List.drop_take, hsize, hstart]
  rfl

theorem windows_reverse (hsize : 0 < size) :
    windows size bs.reverse = (windows size bs).reverse.map List.reverse := by
  have hcount := length_windows bs hsize
  refine List.ext_getElem? fun i ↦ ?_
  rw [getElem?_windows hsize, List.getElem?_map]
  rcases Nat.lt_or_ge i (windows size bs).length with hlt | hge
  · have hplace : (windows size bs).length - 1 - i = bs.length - (i + size) := by omega
    rw [List.getElem?_reverse hlt, slice?_reverse (by omega), getElem?_windows hsize, hplace]
  · rw [List.getElem?_eq_none (by rwa [List.length_reverse]), slice?, List.length_reverse,
      if_neg (by omega)]
    rfl

theorem lastPosition?_eq (bs : List UInt8) (hpattern : 0 < pattern.length) :
    lastPosition? pattern bs =
      (position? pattern.reverse bs.reverse).map fun j ↦ bs.length - (j + pattern.length) := by
  have hcount := length_windows bs hpattern
  have hsearch : position? pattern.reverse bs.reverse =
      (windows pattern.length bs).reverse.findIdx? (· = pattern) := by
    rw [position?, List.length_reverse, windows_reverse hpattern, List.findIdx?_map]
    congr 1
    funext part
    simp [List.reverse_inj]
  rw [hsearch, lastPosition?]
  refine Option.map_congr fun j hj ↦ ?_
  obtain ⟨hlt, -, -⟩ := List.findIdx?_eq_some_iff_getElem.1 hj
  rw [List.length_reverse] at hlt
  omega

theorem lastPosition?_spec (hpattern : 0 < pattern.length) (h : lastPosition? pattern bs = some i) :
    i + pattern.length ≤ bs.length ∧ bs.take (i + pattern.length) = bs.take i ++ pattern := by
  obtain ⟨j, hj, rfl⟩ := Option.map_eq_some_iff.1 h
  obtain ⟨hlt, hget, -⟩ := List.findIdx?_eq_some_iff_getElem.1 hj
  have hlt' := hlt
  rw [List.length_reverse] at hlt'
  refine of_windows hpattern ?_
  rw [← List.getElem?_reverse hlt', List.getElem?_eq_getElem hlt, of_decide_eq_true hget]

/-- The lines up to the last end of a line are sliced at its position. -/
theorem wholeLines?_eq :
    HeaderBlock.wholeLines? bs = (lastPosition? crlf bs).map fun last ↦ bs.take (last + 2) := by
  have hlast : lastPosition? crlf bs = _ := lastPosition?_eq bs (by decide)
  rw [HeaderBlock.wholeLines?, splitAt?_eq, Option.map_map, hlast, Option.map_map]
  refine Option.map_congr fun j hj ↦ ?_
  rw [hj] at hlast
  have htake := (lastPosition?_spec (by decide) hlast).2
  show (bs.reverse.drop (j + 2)).reverse ++ crlf = bs.take (bs.length - (j + 2) + crlf.length)
  rw [List.reverse_drop, List.reverse_reverse, List.length_reverse]
  exact htake.symm

/-- The header block of a message, up to and with its empty line. -/
def headerBlock (data : List UInt8) : Guarded (List UInt8) := do
  let lineEnd ← ofOption (position? crlf data)
  let start ← add lineEnd 2
  let rest ← range data start data.length
  match position? (crlf ++ crlf) rest with
  | some pos => do
    let stop ← add pos 4
    range rest 0 stop
  | none => do
    let last ← ofOption (lastPosition? crlf rest)
    let stop ← add last 2
    let lines ← range rest 0 stop
    return lines ++ crlf

/-- What a search for the end of a header block makes of the bytes behind the start line. -/
theorem block_eq (rest : List UInt8) :
    (match splitAt? (crlf ++ crlf) rest with
      | some (before, _) => some (before ++ crlf ++ crlf)
      | none => (HeaderBlock.wholeLines? rest).map (· ++ crlf)) =
      match position? (crlf ++ crlf) rest with
      | some pos => some (rest.take (pos + 4))
      | none => (lastPosition? crlf rest).map fun last ↦ rest.take (last + 2) ++ crlf := by
  rw [splitAt?_eq, wholeLines?_eq, Option.map_map]
  cases hpos : position? (crlf ++ crlf) rest with
  | some pos =>
    have htake := (position?_spec (by decide) hpos).2
    show some (rest.take pos ++ crlf ++ crlf) = some (rest.take (pos + (crlf ++ crlf).length))
    rw [htake, List.append_assoc]
  | none => rfl

theorem headerBlock_eq (hdata : Captured data) :
    headerBlock data = ofOption (HeaderBlock.ofMessage? data) := by
  have hlength := hdata.length_lt
  rw [headerBlock, HeaderBlock.ofMessage?, line?, splitAt?_eq]
  show _ = ofOption (Option.bind (Option.map _ _) _)
  rw [Option.bind_map]
  refine ofOption_bind fun lineEnd hlineEnd ↦ ?_
  have hstart : lineEnd + 2 ≤ data.length := (position?_spec (by decide) hlineEnd).1
  rw [add_eq (by omega), value_bind, range_length hstart, value_bind]
  show _ = ofOption (match splitAt? (crlf ++ crlf) (data.drop (lineEnd + 2)) with
      | some (before, _) => some (before ++ crlf ++ crlf)
      | none => (HeaderBlock.wholeLines? (data.drop (lineEnd + 2))).map (· ++ crlf))
  rw [block_eq]
  -- all that matters of the rest is that it is no longer than the capture
  have hrest : (data.drop (lineEnd + 2)).length ≤ data.length := by
    rw [List.length_drop]
    omega
  generalize data.drop (lineEnd + 2) = rest at hrest ⊢
  cases hpos : position? (crlf ++ crlf) rest with
  | some pos =>
    have hle : pos + 4 ≤ rest.length := (position?_spec (by decide) hpos).1
    simp only
    rw [add_eq (by omega), value_bind, range_eq (Nat.zero_le _) hle]
    rfl
  | none =>
    simp only
    rw [Option.map_eq_bind]
    refine ofOption_bind fun last hlast ↦ ?_
    have hle : last + 2 ≤ rest.length := (lastPosition?_spec (by decide) hlast).1
    rw [add_eq (by omega), value_bind, range_eq (Nat.zero_le _) hle]
    rfl

/-- The headers of a block. -/
def headersOf (block : Option (List UInt8)) : Fields String :=
  let headers := do HeaderBlock.headers? HeaderBlock.capacity (HeaderBlock.linesFrom [] (← block))
  Fields.ofList ((headers.getD []).map fun (n, v) ↦
    (HeaderBlock.nameText n, HeaderBlock.valueText v))

/-! ### Trace identifiers -/

/-- Where a character occurs first, in bytes of UTF-8. -/
def bytePosition? (c : Char) : List Char → Option Nat
  | [] => none
  | d :: ds => if d = c then some 0 else (bytePosition? c ds).map (d.utf8Size + ·)

/-- What stands before the first colon of a text. -/
def jaegerId (text : String) : Guarded String :=
  match bytePosition? ':' text.toList with
  | some pos =>
    if 0 < pos then do
      let id ← demand .outOfRange (Trace.takeBytes? pos text.toList)
      return String.ofList id
    else value text
  | none => value text

/-- The trace of the first system whose header is there. -/
def firstTrace (headers : Fields String) : Guarded Trace :=
  match headers.find? "sw8" with
  | some v => ofOption ((Trace.skywalkingId? v).map fun id ↦ ⟨.skywalking, id⟩)
  | none =>
  match headers.find? "apm-transactionid" with
  | some v => value ⟨.harmonycloud, v⟩
  | none =>
  match headers.find? "x-b3-traceid" with
  | some v => value ⟨.zipkin, v⟩
  | none =>
  match headers.find? "uber-trace-id" with
  | some v => do
    let id ← jaegerId v
    return ⟨.jaeger, id⟩
  | none =>
  match headers.find? "traceparent" >>= Trace.w3cId? with
  | some id => value ⟨.w3c, id⟩
  | none =>
    ofOption ((headers.find? "traceresponse" >>= Trace.w3cId?).map fun id ↦ ⟨.w3c, id⟩)

/-- The trace that headers under lowercase names give. -/
def traceOf (headers : Fields String) : Guarded Trace := do
  let found ← firstTrace headers
  if found.id.isEmpty then refused else value found

/-- A slice up to a character ends between two characters. -/
theorem takeBytes?_of_bytePosition? {c : Char} {cs : List Char} {pos : Nat}
    (h : bytePosition? c cs = some pos) :
    Trace.takeBytes? pos cs = some (cs.takeWhile (· ≠ c)) ∧
      (pos = 0 ↔ cs.takeWhile (· ≠ c) = []) := by
  induction cs generalizing pos with
  | nil => cases h
  | cons d ds ih =>
    rw [bytePosition?] at h
    by_cases hd : d = c
    · rw [if_pos hd] at h
      cases h
      simp [Trace.takeBytes?, hd]
    · rw [if_neg hd] at h
      obtain ⟨n, hn, rfl⟩ := Option.map_eq_some_iff.1 h
      have hsize := d.utf8Size_pos
      obtain ⟨k, hk⟩ : ∃ k, d.utf8Size + n = k + 1 := ⟨d.utf8Size + n - 1, by omega⟩
      have hrest : k + 1 - d.utf8Size = n := by omega
      rw [hk, Trace.takeBytes?, if_pos (by omega), hrest, (ih hn).1]
      simp [hd]

theorem takeWhile_of_bytePosition? {c : Char} {cs : List Char} (h : bytePosition? c cs = none) :
    cs.takeWhile (· ≠ c) = cs := by
  induction cs with
  | nil => rfl
  | cons d ds ih =>
    rw [bytePosition?] at h
    by_cases hd : d = c
    · rw [if_pos hd] at h
      cases h
    · rw [if_neg hd] at h
      rw [List.takeWhile_cons_of_pos (by simpa using hd), ih (Option.map_eq_none_iff.1 h)]

theorem jaegerId_eq (text : String) : jaegerId text = value (Trace.jaegerId text) := by
  rw [jaegerId, Trace.jaegerId]
  cases hpos : bytePosition? ':' text.toList with
  | some pos =>
    obtain ⟨htake, hzero⟩ := takeBytes?_of_bytePosition? hpos
    simp only [htake]
    by_cases hempty : text.toList.takeWhile (· ≠ ':') = []
    · rw [if_neg (by rw [hzero.2 hempty]; decide), if_pos (List.isEmpty_iff.2 hempty)]
    · have hne : pos ≠ 0 := fun h ↦ hempty (hzero.1 h)
      rw [if_pos (by omega), if_neg (fun h ↦ hempty (List.isEmpty_iff.1 h))]
      rfl
  | none =>
    simp only [takeWhile_of_bytePosition? hpos, String.ofList_toList, ite_self]

theorem traceOf_eq (headers : Fields String) :
    traceOf headers = ofOption (Trace.ofHeaders? headers) := by
  have hfilter : ∀ found : Option Trace,
      (ofOption found >>= fun t ↦ if t.id.isEmpty then refused else value t) =
        ofOption (found.filter fun t ↦ !t.id.isEmpty) := by
    intro found
    cases found with
    | none => rfl
    | some t =>
      show (if t.id.isEmpty then refused else value t) =
        ofOption (if (!t.id.isEmpty) = true then some t else none)
      cases t.id.isEmpty <;> rfl
  rw [traceOf, Trace.ofHeaders?, ← hfilter]
  congr 1
  unfold firstTrace
  cases headers.find? "sw8" with
  | some v => rfl
  | none =>
  cases headers.find? "apm-transactionid" with
  | some v => rfl
  | none =>
  cases headers.find? "x-b3-traceid" with
  | some v => rfl
  | none =>
  cases headers.find? "uber-trace-id" with
  | some v =>
    simp only [jaegerId_eq]
    rfl
  | none => cases headers.find? "traceparent" >>= Trace.w3cId? <;> rfl

end Guarded

/-! ### Messages -/

namespace Http

open Guarded

variable {m : Message}

/-- Whether a space stands before a position. -/
def guardedBlank (data : List UInt8) (offset : Nat) : Guarded Bool :=
  if 1 ≤ offset then do
    let b ← byte data (offset - 1)
    return b = 0x20
  else value false

/-- Add the trace that the headers of the message name. -/
def guardedTrace (m : Message) : Guarded Message := do
  let block ← (headerBlock m.data).attempt
  let trace ← (traceOf (headersOf block)).attempt
  return trace.elim m fun t ↦
    (m.putText Label.traceType t.system.name).putText Label.traceId t.id

/-- The method a request starts with and the position of its target. -/
def guardedMethod (m : Message) : Guarded (String × Nat) := do
  let head ← untilBlankWithin m.data 0 8
  match methods.find? fun name ↦ Ascii.bytes name = head.2 with
  | some name => value (name, head.1)
  | none => do
    let blank ← guardedBlank m.data head.1
    if blank && byte? m.data head.1 = some 0x2F && head.2 = Ascii.bytes "ET" then
      value ("GET", head.1)
    else refused

/-- Read a request. -/
def guardedRequest (m : Message) : Guarded Message :=
  if m.data.length < minLength then refused
  else do
    let method ← guardedMethod m
    let target ← untilBlank m.data method.2
    let url := Utf8.lossy target.2
    let m ← guardedTrace m
    return ((m.putText Label.httpMethod method.1).putText Label.httpUrl url).putText
      Label.contentKey (contentKey url)

/-- The status of a response. -/
def guardedStatus (m : Message) : Guarded Nat := do
  let head ← untilBlankWithin m.data 0 9
  let blank ← guardedBlank m.data head.1
  if (versions.map Ascii.bytes).contains head.2 && blank then do
    let status ← untilBlankWithin m.data head.1 6
    let digits := status.2.takeWhile Ascii.isDigit
    let code ← ofOption (Numeral.digits? 10 (digits.map fun b ↦ Char.ofNat b.toNat))
    return if 99 ≤ code && code ≤ 999 then code else 0
  else refused

/-- Read a response. -/
def guardedResponse (m : Message) : Guarded Message :=
  if m.data.length < minLength then refused
  else do
    let code ← guardedStatus m
    let m ← if m.attributes.contains Label.traceType then value m else guardedTrace m
    let m := (m.putInt Label.httpStatusCode code).putText Label.httpResponsePayload
      (Ascii.printable payloadLength m.data)
    return m.protocolErrorIf (400 ≤ code)

theorem guardedTrace_eq (hm : Captured m.data) : guardedTrace m = value (addTrace m) := by
  rw [guardedTrace, headerBlock_eq hm, attempt_ofOption, value_bind, traceOf_eq, attempt_ofOption,
    value_bind]
  show value ((Trace.ofHeaders? (HeaderBlock.ofMessage m.data)).elim m _) = _
  rw [addTrace]
  cases Trace.ofHeaders? (HeaderBlock.ofMessage m.data) <;> rfl

/-- Behind a word there is at least one byte to look back at, and no more than there are. -/
theorem untilBlankWithin_bounds {limit : Nat} (hlimit : 1 ≤ limit) (hm : 1 ≤ m.data.length) :
    1 ≤ (m.untilBlankWithin 0 limit).1 ∧ (m.untilBlankWithin 0 limit).1 ≤ m.data.length := by
  have hpart := length_window m.data 0 limit
  simp only [Message.untilBlankWithin]
  split
  · simp only
    omega
  · simp only
    omega

theorem guardedBlank_eq {offset : Nat} (hone : 1 ≤ offset) (hle : offset ≤ m.data.length) :
    guardedBlank m.data offset = value (decide (m.data[offset - 1]? = some 0x20)) := by
  have hlt : offset - 1 < m.data.length := by omega
  rw [guardedBlank, if_pos hone, byte_eq hlt, value_bind, List.getElem?_eq_getElem hlt]
  simp

theorem guardedMethod_eq (hm : Captured m.data) (hlength : 1 ≤ m.data.length) :
    guardedMethod m = ofOption (method? m) := by
  have hlimit : 1 ≤ 8 := by decide
  obtain ⟨hone, hle⟩ := untilBlankWithin_bounds hlimit hlength
  rw [guardedMethod, untilBlankWithin_eq hm, value_bind, method?]
  generalize m.untilBlankWithin 0 8 = head at hone hle ⊢
  obtain ⟨offset, word⟩ := head
  simp only
  cases methods.find? fun name ↦ Ascii.bytes name = word with
  | some name => rfl
  | none =>
    simp only
    rw [guardedBlank_eq hone hle, value_bind, byte?]
    have hcomm : ∀ x y z : Bool, (x && y && z) = (z && x && y) := by decide
    rw [hcomm]
    split <;> rfl

theorem guardedRequest_eq (hm : Captured m.data) : guardedRequest m = ofOption (request? m) := by
  rw [guardedRequest, request?]
  refine ite_ofOption (fun _ ↦ rfl) fun hlength ↦ ?_
  have hlength : 14 ≤ m.data.length := Nat.le_of_not_lt hlength
  rw [guardedMethod_eq hm (by omega)]
  refine ofOption_bind fun method _ ↦ ?_
  rw [untilBlank_eq hm, value_bind, guardedTrace_eq hm]
  rfl

theorem guardedStatus_eq (hm : Captured m.data) (hlength : 1 ≤ m.data.length) :
    guardedStatus m = ofOption (status? m) := by
  have hlimit : 1 ≤ 9 := by decide
  obtain ⟨hone, hle⟩ := untilBlankWithin_bounds hlimit hlength
  rw [guardedStatus, untilBlankWithin_eq hm, value_bind, status?]
  generalize m.untilBlankWithin 0 9 = head at hone hle ⊢
  obtain ⟨offset, version⟩ := head
  simp only
  rw [guardedBlank_eq hone hle, value_bind]
  refine ite_ofOption (fun _ ↦ ?_) fun _ ↦ rfl
  rw [untilBlankWithin_eq hm, value_bind]
  exact ofOption_bind fun _ _ ↦ rfl

theorem guardedResponse_eq (hm : Captured m.data) :
    guardedResponse m = ofOption (response? m) := by
  rw [guardedResponse, response?]
  refine ite_ofOption (fun _ ↦ rfl) fun hlength ↦ ?_
  have hlength : 14 ≤ m.data.length := Nat.le_of_not_lt hlength
  rw [guardedStatus_eq hm (by omega)]
  refine ofOption_bind fun code _ ↦ ?_
  rw [guardedTrace_eq hm]
  split <;> rfl

end Http

end SocketWatch.Wire
