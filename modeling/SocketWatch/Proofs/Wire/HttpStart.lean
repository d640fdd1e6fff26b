import Mathlib.Data.List.TakeWhile
import Mathlib.Data.Nat.Digits.Defs
import SocketWatch.Proofs.Traverse
import SocketWatch.Proofs.Wire.Dns
/-!
# How messages of HTTP begin

HTTP is recognised by the first bytes of a capture. The reader looks for a space among the first
eight bytes of a request and the first nine of a response, and decides by what stands before it. No
method and no version fills its window, so a word of the protocol is read only where a space was
really seen behind it (`exists_data_of_untilBlankWithin`): the windows are a matter of the reader,
and do not show in what it accepts.

`BeginsRequest` and `BeginsResponse` say what it accepts, by the bytes alone. They also tell where
the target and the status begin. The target goes on to the next space or the end of the capture. Of
the status no more than six bytes are looked at, and among these only the digits in front.
-/

namespace SocketWatch.Wire

variable {m m' : Message}

namespace Message

variable {word rest : List UInt8} {start limit : Nat}

/-- A word with a space behind it is found where the window has room for the space. -/
theorem untilBlankWithin_of_data (hdata : m.data = word ++ 0x20 :: rest)
    (hword : ∀ b ∈ word, b ≠ 0x20) (hlimit : word.length < limit) :
    m.untilBlankWithin 0 limit = (word.length + 1, word) := by
  obtain ⟨more, hmore⟩ : ∃ more, window m.data 0 limit = word ++ 0x20 :: more := by
    obtain ⟨k, hk⟩ : ∃ k, limit - word.length = k + 1 := ⟨limit - word.length - 1, by omega⟩
    refine ⟨rest.take k, ?_⟩
    rw [window, List.drop_zero, hdata, List.take_append, List.take_of_length_le hlimit.le, hk,
      List.take_succ_cons]
  have hfound : (window m.data 0 limit).takeWhile (· ≠ 0x20) = word := by
    rw [hmore, List.takeWhile_append_of_pos (by simpa using hword),
      List.takeWhile_cons_of_neg (by decide), List.append_nil]
  simp only [untilBlankWithin, hfound, Nat.zero_min, Nat.zero_add]
  rw [if_pos (by rw [hmore, List.length_append, List.length_cons]; omega)]

/-- **A word that fills neither its window nor the capture has a space behind it.** -/
theorem exists_data_of_untilBlankWithin (hlimit : (m.untilBlankWithin 0 limit).2.length < limit)
    (hlength : (m.untilBlankWithin 0 limit).2.length < m.data.length) :
    ∃ rest, m.data = (m.untilBlankWithin 0 limit).2 ++ 0x20 :: rest := by
  have hword : (m.untilBlankWithin 0 limit).2 = (m.data.take limit).takeWhile (· ≠ 0x20) :=
    Dns.untilBlankWithin_snd m 0 limit
  have hsplit : (m.data.take limit).takeWhile (· ≠ 0x20) ++ (m.data.take limit).dropWhile (· ≠ 0x20)
      = m.data.take limit := List.takeWhile_append_dropWhile
  rw [← hword] at hsplit
  cases hbehind : (m.data.take limit).dropWhile (· ≠ 0x20) with
  | nil =>
    have hall := congrArg List.length hsplit
    rw [hbehind, List.append_nil, List.length_take] at hall
    omega
  | cons b more =>
    have hb : b = 0x20 := by
      have hhead := List.head?_dropWhile_not (fun b : UInt8 ↦ decide (b ≠ 0x20)) (m.data.take limit)
      rw [hbehind] at hhead
      simpa using hhead
    refine ⟨more ++ m.data.drop limit, ?_⟩
    rw [← List.cons_append, ← hb, ← hbehind, ← List.append_assoc, hsplit, List.take_append_drop]

end Message

namespace Http

variable {method : String} {target status : List UInt8} {offset : Nat}

/-! ### What begins a message -/

/-- How a request begins: with a method and a space, or with what is left of `GET` behind its first
byte, a space and a slash. The target follows the space. -/
inductive BeginsRequest : List UInt8 → String → List UInt8 → Prop
  | whole {method : String}
      (hmethod : method ∈ ["GET", "POST", "PUT", "DELETE", "HEAD", "TRACE", "OPTIONS", "CONNECT"])
      (target : List UInt8) :
      BeginsRequest (Ascii.bytes method ++ 0x20 :: target) method target
  | split (rest : List UInt8) : BeginsRequest (Ascii.bytes "ET /" ++ rest) "GET" (0x2F :: rest)

/-- How a response begins: with a version, a space and a digit. The status follows the space. -/
inductive BeginsResponse : List UInt8 → List UInt8 → Prop
  | intro {version : String} (hversion : version ∈ ["HTTP/1.0", "HTTP/1.1"]) {digit : UInt8}
      (hdigit : Ascii.isDigit digit = true) (rest : List UInt8) :
      BeginsResponse (Ascii.bytes version ++ 0x20 :: digit :: rest) (digit :: rest)

/-- The number that the digits in front of some bytes denote. -/
def leadingNumber (bs : List UInt8) : Nat :=
  Nat.ofDigits 10 ((bs.takeWhile Ascii.isDigit).map fun b ↦ b.toNat - 0x30).reverse

/-! ### Requests -/

/-- A method is a word that does not fill its window, and it is no other method. -/
theorem methods_spec {method : String} (hmethod : method ∈ methods) :
    (∀ b ∈ Ascii.bytes method, b ≠ 0x20) ∧ (Ascii.bytes method).length < 8 ∧
      methods.find? (fun name ↦ Ascii.bytes name = Ascii.bytes method) = some method := by
  revert method
  decide +kernel

/-- What is left of `GET` without its first byte does not fill its window, and it is no method. -/
theorem split_spec : (∀ b ∈ Ascii.bytes "ET", b ≠ 0x20) ∧ (Ascii.bytes "ET").length < 8 ∧
    methods.find? (fun name ↦ Ascii.bytes name = Ascii.bytes "ET") = none := by
  decide +kernel

/-- A request that begins as it should is given its method, and its target follows. -/
theorem exists_method?_of_beginsRequest (h : BeginsRequest m.data method target) :
    ∃ offset, method? m = some (method, offset) ∧ m.data.drop offset = target := by
  generalize hdata : m.data = data at h
  cases h with
  | whole hmethod target =>
    obtain ⟨hword, hlimit, hfound⟩ := methods_spec hmethod
    refine ⟨(Ascii.bytes method).length + 1, ?_, List.drop_length_add_append ..⟩
    rw [method?, Message.untilBlankWithin_of_data hdata hword hlimit]
    simp only [hfound]
  | split rest =>
    have hword : m.data = Ascii.bytes "ET" ++ 0x20 :: 0x2F :: rest := hdata
    obtain ⟨hblank, hlimit, hother⟩ := split_spec
    refine ⟨3, ?_, rfl⟩
    rw [method?, Message.untilBlankWithin_of_data hword hblank hlimit, hdata]
    simp only [hother]
    rfl

/-- What is taken for a method stands at the beginning as it should. -/
theorem exists_beginsRequest_of_method? (hlength : 8 ≤ m.data.length)
    (h : method? m = some (method, offset)) : ∃ target, BeginsRequest m.data method target := by
  unfold method? at h
  simp only at h
  split at h
  · rename_i name hfound
    have hname : Ascii.bytes name = (m.untilBlankWithin 0 8).2 := by
      simpa using List.find?_some hfound
    have hmethod : name ∈ methods := List.mem_of_find?_eq_some hfound
    obtain ⟨-, hlimit, -⟩ := methods_spec hmethod
    rw [hname] at hlimit
    obtain ⟨target, hdata⟩ := Message.exists_data_of_untilBlankWithin hlimit (by omega)
    cases h
    rw [hdata, ← hname]
    exact ⟨target, .whole hmethod target⟩
  · split at h
    · rename_i hrest
      simp only [Bool.and_eq_true, decide_eq_true_eq] at hrest
      obtain ⟨⟨hword, -⟩, hslash⟩ := hrest
      obtain ⟨hblank, hlimit, -⟩ := split_spec
      have hshort : (m.untilBlankWithin 0 8).2.length < 8 := hword ▸ hlimit
      obtain ⟨target, hdata⟩ := Message.exists_data_of_untilBlankWithin hshort (by omega)
      rw [hword] at hdata
      rw [Message.untilBlankWithin_of_data hdata hblank hlimit, hdata] at hslash
      cases target with
      | nil => cases hslash
      | cons slash rest =>
        obtain rfl : slash = 0x2F := Option.some.inj hslash
        cases h
        rw [hdata]
        exact ⟨0x2F :: rest, .split rest⟩
    · cases h

/-- **What is read from a request.** The position of the target is that behind the method. -/
theorem request?_of_beginsRequest (hlength : minLength ≤ m.data.length)
    (h : BeginsRequest m.data method target) :
    request? m = some ((((addTrace m).putText Label.httpMethod method).putText Label.httpUrl
      (Utf8.lossy (target.takeWhile (· ≠ 0x20)))).putText Label.contentKey
        (contentKey (Utf8.lossy (target.takeWhile (· ≠ 0x20))))) := by
  obtain ⟨offset, hmethod, htarget⟩ := exists_method?_of_beginsRequest h
  have hurl : (m.untilBlank offset).2 = target.takeWhile (· ≠ 0x20) := by
    rw [Message.untilBlank, Dns.untilBlankWithin_snd, window, htarget,
      List.take_of_length_le (by rw [← htarget, List.length_drop]; omega)]
  rw [request?, if_neg (Nat.not_lt.2 hlength), hmethod]
  show some _ = _
  rw [hurl]

theorem exists_beginsRequest_of_request? (h : request? m = some m') :
    minLength ≤ m.data.length ∧ ∃ method target, BeginsRequest m.data method target := by
  unfold request? at h
  split at h
  · cases h
  · rename_i hlength
    have hlength : minLength ≤ m.data.length := Nat.not_lt.1 hlength
    obtain ⟨⟨method, offset⟩, hmethod, -⟩ := Option.bind_eq_some_iff.1 h
    exact ⟨hlength, method,
      exists_beginsRequest_of_method? (Nat.le_trans (by decide) hlength) hmethod⟩

/-- The labels of a request. -/
theorem labels_of_request? (hread : request? m = some m')
    (hbegins : BeginsRequest m.data method target) :
    let url := Utf8.lossy (target.takeWhile (· ≠ 0x20))
    m'.attributes.find? Label.httpMethod = some (.text method) ∧
      m'.attributes.find? Label.httpUrl = some (.text url) ∧
      m'.attributes.find? Label.contentKey = some (.text (contentKey url)) := by
  obtain ⟨hlength, -⟩ := exists_beginsRequest_of_request? hread
  rw [request?_of_beginsRequest hlength hbegins] at hread
  obtain rfl := Option.some.inj hread
  refine ⟨?_, ?_, ?_⟩
  · rw [Message.putText, Attributes.find?_putText, if_neg (by decide), Message.putText,
      Attributes.find?_putText, if_neg (by decide), Message.putText, Attributes.find?_putText,
      if_pos rfl]
  · rw [Message.putText, Attributes.find?_putText, if_neg (by decide), Message.putText,
      Attributes.find?_putText, if_pos rfl]
  · rw [Message.putText, Attributes.find?_putText, if_pos rfl]

/-! ### Responses -/

/-- A run of digits is the number it denotes. -/
theorem digits?_of_isDigit {bs : List UInt8} (hne : bs ≠ [])
    (hbs : ∀ b ∈ bs, Ascii.isDigit b = true) :
    Numeral.digits? 10 (bs.map fun b ↦ Char.ofNat b.toNat) =
      some (Nat.ofDigits 10 (bs.map fun b ↦ b.toNat - 0x30).reverse) := by
  have hdigit : ∀ n < 0x3A, 0x30 ≤ n → Numeral.digit? 10 (Char.ofNat n) = some (n - 0x30) := by
    decide
  have hread : (bs.map fun b ↦ Char.ofNat b.toNat).mapM (Numeral.digit? 10) =
      some (bs.map fun b ↦ b.toNat - 0x30) := by
    rw [mapM_eq_some_iff, List.forall₂_map_left_iff, List.forall₂_map_right_iff, List.forall₂_same]
    intro b hb
    have hrange := hbs b hb
    simp only [Ascii.isDigit, Bool.and_eq_true, decide_eq_true_eq, UInt8.le_iff_toNat_le] at hrange
    exact hdigit b.toNat (Nat.lt_succ_of_le hrange.2) hrange.1
  rw [Numeral.digits?, if_neg (by simpa using hne), hread, Option.map_some, Numeral.ofDigits,
    Nat.ofDigits_eq_foldr, List.foldr_reverse]
  simp only [Nat.cast_id, Nat.mul_comm 10, Nat.add_comm]

/-- A version is a word that does not fill its window. -/
theorem versions_spec {version : String} (hversion : version ∈ versions) :
    (∀ b ∈ Ascii.bytes version, b ≠ 0x20) ∧ (Ascii.bytes version).length = 8 ∧
      (versions.map Ascii.bytes).contains (Ascii.bytes version) = true := by
  revert version
  decide +kernel

/-- The version in front of a space, and what stands behind it. -/
theorem untilBlankWithin_of_version {version : String} {rest : List UInt8}
    (hversion : version ∈ versions) (hdata : m.data = Ascii.bytes version ++ 0x20 :: rest) :
    m.untilBlankWithin 0 9 = (9, Ascii.bytes version) ∧ m.data[9 - 1]? = some 0x20 ∧
      m.data.drop 9 = rest := by
  obtain ⟨hword, hsize, -⟩ := versions_spec hversion
  refine ⟨?_, ?_, ?_⟩
  · rw [Message.untilBlankWithin_of_data hdata hword (hsize ▸ by decide), hsize]
  · rw [hdata, List.getElem?_append_right hsize.le, hsize]
    rfl
  · rw [hdata, show 9 = (Ascii.bytes version).length + 1 by omega, List.drop_length_add_append]
    rfl

/-- A space ends the digits anyway. -/
theorem takeWhile_isDigit_untilBlankWithin (m : Message) (start limit : Nat) :
    (m.untilBlankWithin start limit).2.takeWhile Ascii.isDigit =
      ((m.data.drop start).take limit).takeWhile Ascii.isDigit := by
  have himp : ∀ b : UInt8, (Ascii.isDigit b = true ∧ (decide (b ≠ 0x20)) = true) ↔
      Ascii.isDigit b = true := fun b ↦
    ⟨And.left, fun h ↦ ⟨h, decide_eq_true fun hb ↦ absurd (hb ▸ h) (by decide)⟩⟩
  rw [Dns.untilBlankWithin_snd, window, List.takeWhile_takeWhile]
  simp only [himp, Bool.decide_coe]

/-- The code that a status gives: the number in front of its first six bytes, where it is in
range. -/
def codeOf (status : List UInt8) : Nat :=
  let n := leadingNumber (status.take 6)
  if 99 ≤ n && n ≤ 999 then n else 0

/-- A response that begins as it should has the code of its status. -/
theorem status?_of_beginsResponse (h : BeginsResponse m.data status) :
    status? m = some (codeOf status) := by
  generalize hdata : m.data = data at h
  cases h with
  | @intro version hversion digit hdigit rest =>
    obtain ⟨hhead, hblank, hstatus⟩ := untilBlankWithin_of_version hversion hdata
    have hne : ((digit :: rest).take 6).takeWhile Ascii.isDigit ≠ [] := by
      simp [hdigit]
    rw [status?, hhead]
    simp only
    rw [(versions_spec hversion).2.2, hblank, takeWhile_isDigit_untilBlankWithin, hstatus]
    simp only [decide_true, Bool.and_self, if_true]
    rw [digits?_of_isDigit hne fun b hb ↦ List.mem_takeWhile_imp hb]
    rfl

/-- What has a status stands at the beginning as it should. -/
theorem exists_beginsResponse_of_status? {code : Nat} (hlength : 9 ≤ m.data.length)
    (h : status? m = some code) : ∃ status, BeginsResponse m.data status := by
  unfold status? at h
  simp only at h
  split at h
  · rename_i hhead
    simp only [Bool.and_eq_true, List.contains_iff_mem, decide_eq_true_eq] at hhead
    obtain ⟨version, hversion, hname⟩ := List.mem_map.1 hhead.1
    obtain ⟨-, hsize, -⟩ := versions_spec hversion
    have hlimit : (m.untilBlankWithin 0 9).2.length < 9 := by
      rw [← hname]
      omega
    obtain ⟨rest, hdata⟩ := Message.exists_data_of_untilBlankWithin hlimit (by omega)
    rw [← hname] at hdata
    obtain ⟨hhead, -, hrest⟩ := untilBlankWithin_of_version hversion hdata
    obtain ⟨n, hn, -⟩ := Option.bind_eq_some_iff.1 h
    rw [hhead, takeWhile_isDigit_untilBlankWithin, hrest] at hn
    cases rest with
    | nil => cases hn
    | cons digit rest =>
      cases hdigit : Ascii.isDigit digit with
      | true => exact ⟨digit :: rest, hdata ▸ .intro hversion hdigit rest⟩
      | false =>
        rw [List.take_succ_cons, List.takeWhile_cons_of_neg (by simp [hdigit])] at hn
        cases hn
  · cases h

/-- What is read from a response. -/
theorem response?_of_beginsResponse (hlength : minLength ≤ m.data.length)
    (h : BeginsResponse m.data status) :
    ∃ kept, m.Keeps kept ∧
      response? m = some (((kept.putInt Label.httpStatusCode (codeOf status)).putText
        Label.httpResponsePayload (Ascii.printable payloadLength kept.data)).protocolErrorIf
          (400 ≤ codeOf status)) := by
  refine ⟨if m.attributes.contains Label.traceType then m else addTrace m, ?_, ?_⟩
  · split
    · exact .refl m
    · exact keeps_addTrace m
  · rw [response?, if_neg (Nat.not_lt.2 hlength), status?_of_beginsResponse h]
    simp only [Option.bind_eq_bind, Option.bind_some]

theorem exists_beginsResponse_of_response? (h : response? m = some m') :
    minLength ≤ m.data.length ∧ ∃ status, BeginsResponse m.data status := by
  unfold response? at h
  split at h
  · cases h
  · rename_i hlength
    have hlength : minLength ≤ m.data.length := Nat.not_lt.1 hlength
    obtain ⟨code, hcode, -⟩ := Option.bind_eq_some_iff.1 h
    exact ⟨hlength, exists_beginsResponse_of_status? (Nat.le_trans (by decide) hlength) hcode⟩

/-- The labels of a response. -/
theorem labels_of_response? (hread : response? m = some m')
    (hbegins : BeginsResponse m.data status) :
    m'.attributes.find? Label.httpStatusCode = some (.int (Int64.ofInt (codeOf status))) ∧
      m'.attributes.find? Label.isError =
        if 400 ≤ codeOf status then some (.bool true) else m.attributes.find? Label.isError := by
  obtain ⟨hlength, -⟩ := exists_beginsResponse_of_response? hread
  obtain ⟨kept, hkept, hread'⟩ := response?_of_beginsResponse hlength hbegins
  obtain rfl := Option.some.inj (hread.symm.trans hread')
  constructor
  · rw [Dns.find?_protocolErrorIf (by decide), Message.putText, Attributes.find?_putText,
      if_neg (by decide), Message.putInt, Attributes.find?_putInt, if_pos rfl]
  · have hkept' : m.Keeps ((kept.putInt Label.httpStatusCode (codeOf status)).putText
        Label.httpResponsePayload (Ascii.printable payloadLength kept.data)) :=
      (hkept.putInt (by decide) _).putText (by decide) _
    rw [Message.find?_isError_protocolErrorIf, hkept' Label.isError (by decide)]

/-! ### Recognition -/

/-- **HTTP is recognised by how a message begins.** A request is read exactly if it has at least 14
bytes and begins with one of the eight methods and a space, or with `ET /`. Its labels are that
method, `GET` in the second case; the text of the target up to the next space or the end of the
capture; and of this text what stands before the first question mark, `*` where nothing does.

A response is read exactly if it has at least 14 bytes and begins with one of the two versions, a
space and a digit. Its code is the number that the digits in front of the next six bytes denote, and
zero for one outside of 99 to 999. From 400 on it is marked as an error, and below that the mark is
left as it was. -/
theorem read_iff_begins (m : Message) :
    ((request? m).isSome ↔
      14 ≤ m.data.length ∧ ∃ method target, BeginsRequest m.data method target) ∧
    (∀ m' method target, request? m = some m' → BeginsRequest m.data method target →
      let url := Utf8.lossy (target.takeWhile (· ≠ 0x20))
      let path := url.toList.takeWhile (· ≠ '?')
      m'.attributes.find? Label.httpMethod = some (.text method) ∧
        m'.attributes.find? Label.httpUrl = some (.text url) ∧
        m'.attributes.find? Label.contentKey =
          some (.text (if path = [] then "*" else String.ofList path))) ∧
    ((response? m).isSome ↔ 14 ≤ m.data.length ∧ ∃ status, BeginsResponse m.data status) ∧
    ∀ m' status, response? m = some m' → BeginsResponse m.data status →
      let n := leadingNumber (status.take 6)
      let code := if 99 ≤ n ∧ n ≤ 999 then n else 0
      m'.attributes.find? Label.httpStatusCode = some (.int (Int64.ofInt code)) ∧
        m'.attributes.find? Label.isError =
          if 400 ≤ code then some (.bool true) else m.attributes.find? Label.isError := by
  refine ⟨⟨fun h ↦ ?_, ?_⟩, fun m' method target hread hbegins ↦ ?_, ⟨fun h ↦ ?_, ?_⟩,
    fun m' status hread hbegins ↦ ?_⟩
  · obtain ⟨m', hread⟩ := Option.isSome_iff_exists.1 h
    exact exists_beginsRequest_of_request? hread
  · rintro ⟨hlength, method, target, hbegins⟩
    exact Option.isSome_of_eq_some (request?_of_beginsRequest hlength hbegins)
  · intro url path
    have hkey : contentKey url = if path = [] then "*" else String.ofList path := by
      simp only [contentKey, List.isEmpty_iff, url, path]
    rw [← hkey]
    exact labels_of_request? hread hbegins
  · obtain ⟨m', hread⟩ := Option.isSome_iff_exists.1 h
    exact exists_beginsResponse_of_response? hread
  · rintro ⟨hlength, status, hbegins⟩
    obtain ⟨kept, -, hread⟩ := response?_of_beginsResponse hlength hbegins
    exact Option.isSome_of_eq_some hread
  · intro n code
    have hcode : codeOf status = code := by
      simp only [codeOf, code, n, Bool.and_eq_true, decide_eq_true_eq]
    rw [← hcode]
    exact labels_of_response? hread hbegins

/-- A request that lost its first byte and is cut off in its target, and a response with zeros in
front of its code and no reason behind it. -/
theorem read_iff_begins_split :
    let request : Message := { data := Ascii.bytes "ET /shop?item=7&c" }
    let response : Message := { data := Ascii.bytes "HTTP/1.0 00503\r\n" }
    (∃ m' target, request? request = some m' ∧ BeginsRequest request.data "GET" target ∧
      m'.attributes.find? Label.httpMethod = some (.text "GET") ∧
      m'.attributes.find? Label.httpUrl = some (.text "/shop?item=7&c") ∧
      m'.attributes.find? Label.contentKey = some (.text "/shop")) ∧
    ∃ m' status, response? response = some m' ∧ BeginsResponse response.data status ∧
      m'.attributes.find? Label.httpStatusCode = some (.int 503) ∧
      m'.attributes.find? Label.isError = some (.bool true) := by
  intro request response
  have hbegins : BeginsRequest request.data "GET" (Ascii.bytes "/shop?item=7&c") :=
    .split (Ascii.bytes "shop?item=7&c")
  have hbegins' : BeginsResponse response.data (Ascii.bytes "00503\r\n") :=
    .intro (show "HTTP/1.0" ∈ _ by decide) (show Ascii.isDigit 0x30 = true by decide)
      (Ascii.bytes "0503\r\n")
  obtain ⟨m₁, hm₁⟩ := Option.isSome_iff_exists.1
    ((read_iff_begins request).1.2 ⟨by decide, _, _, hbegins⟩)
  obtain ⟨m₂, hm₂⟩ := Option.isSome_iff_exists.1
    ((read_iff_begins response).2.2.1.2 ⟨by decide, _, hbegins'⟩)
  obtain ⟨hmethod, hurl, hkey⟩ := (read_iff_begins request).2.1 m₁ _ _ hm₁ hbegins
  obtain ⟨hcode, herror⟩ := (read_iff_begins response).2.2.2 m₂ _ hm₂ hbegins'
  refine ⟨⟨m₁, _, hm₁, hbegins, hmethod, ?_, ?_⟩, m₂, _, hm₂, hbegins', ?_, ?_⟩
  · rw [hurl]
    decide +kernel
  · rw [hkey]
    decide +kernel
  · rw [hcode]
    decide +kernel
  · rw [herror]
    decide +kernel

end Http

end SocketWatch.Wire
