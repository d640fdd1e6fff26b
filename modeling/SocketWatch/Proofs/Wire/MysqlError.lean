import SocketWatch.Proofs.Text.Ascii
import SocketWatch.Proofs.Wire.Bytes
import SocketWatch.Proofs.Wire.Dns
/-!
# Error packets

An error packet has a number and a text. The text may begin with a mark and a state of five
characters, and then the state is shown in front of the message with a colon between. The mark is
looked for in captures of at least 15 bytes only, and a packet with a state has 13 bytes in front of
its message. So a state is not seen in front of a message with less than two characters, and the text
of such a packet is shown as it stands, the mark included (`error_read`). With at least two, the two
layouts are told apart by the mark alone.
-/

namespace SocketWatch.Wire.Mysql

variable (header : Vector UInt8 headerLength) (code : UInt16) (text : List UInt8)

/-- What stands in front of the text of an error: a header, the byte that marks an error, and its
number. -/
def errorStart : List UInt8 := header.toList ++ 0xFF :: (writeUint 2 code.toNat).reverse

/-- An error packet. -/
def writeError : List UInt8 := errorStart header code ++ text

/-- What is read of an error: its number and its text, and that there is one unless the number is
zero. -/
def ShowsError (m m' : Message) (code : Nat) (text : String) : Prop :=
  m'.attributes.find? Label.sqlErrorCode = some (.int (Int64.ofInt code)) ∧
    m'.attributes.find? Label.sqlErrorMsg = some (.text text) ∧
    m'.attributes.find? Label.isError =
      if code ≠ 0 then some (.bool true) else m.attributes.find? Label.isError

theorem length_errorStart : (errorStart header code).length = 7 := by
  rw [errorStart, List.length_append, Vector.length_toList, List.length_cons, List.length_reverse,
    length_writeUint, headerLength]

/-- The text of an error: the mark is looked for behind its number. -/
theorem errorText_writeError :
    errorText (writeError header code text) =
      if 8 ≤ text.length ∧ text[0]? = some 0x23 then
        Utf8.lossy ((text.drop 1).take 5) ++ ":" ++ Utf8.lossy (text.drop 6)
      else Utf8.lossy text := by
  have hbehind (n : Nat) : (writeError header code text).drop (7 + n) = text.drop n := by
    rw [writeError, ← length_errorStart header code, List.drop_length_add_append]
  have hlong : 14 < (writeError header code text).length ↔ 8 ≤ text.length := by
    rw [writeError, List.length_append, length_errorStart]
    omega
  have hmark : (writeError header code text)[7]? = text[0]? := by
    rw [writeError, List.getElem?_append_right (Nat.le_of_eq (length_errorStart header code)),
      length_errorStart]
  simp only [errorText, window, hmark, hlong, Bool.and_eq_true, decide_eq_true_eq]
  rw [hbehind 1, hbehind 6, hbehind 0, List.drop_zero]

/-- A state is shown apart from its message if this has at least two characters. -/
theorem errorText_state {state message : String} (hstate : Ascii.IsText state)
    (hlength : state.toList.length = 5) (hmessage : Ascii.IsText message) :
    errorText (writeError header code (0x23 :: (Ascii.bytes state ++ Ascii.bytes message))) =
      if 2 ≤ message.toList.length then state ++ ":" ++ message else "#" ++ state ++ message := by
  have hfive : (Ascii.bytes state).length = 5 := (Ascii.length_bytes state).trans hlength
  have hlong : 8 ≤ (0x23 :: (Ascii.bytes state ++ Ascii.bytes message)).length ↔
      2 ≤ message.toList.length := by
    rw [List.length_cons, List.length_append, hfive, Ascii.length_bytes]
    omega
  rw [errorText_writeError]
  simp only [hlong, List.getElem?_cons_zero, and_true]
  split
  · have hrest : (Ascii.bytes state ++ Ascii.bytes message).drop 5 = Ascii.bytes message :=
      List.drop_left' hfive
    have hfront : (Ascii.bytes state ++ Ascii.bytes message).take 5 = Ascii.bytes state :=
      List.take_left' hfive
    rw [List.drop_succ_cons, List.drop_succ_cons, List.drop_zero, hfront, hrest,
      Ascii.lossy_bytes hstate, Ascii.lossy_bytes hmessage]
  · have hwhole : 0x23 :: (Ascii.bytes state ++ Ascii.bytes message) =
        Ascii.bytes ("#" ++ state ++ message) := by
      rw [Ascii.bytes_append, Ascii.bytes_append]
      rfl
    have hmark : Ascii.IsText "#" := by decide
    rw [hwhole, Ascii.lossy_bytes ((hmark.append hstate).append hmessage)]

/-- A text without a mark is shown as it stands. -/
theorem errorText_message {message : String} (hmessage : Ascii.IsText message)
    (hmark : message.toList.head? ≠ some '#') :
    errorText (writeError header code (Ascii.bytes message)) = message := by
  have hplain : (Ascii.bytes message)[0]? ≠ some 0x23 := by
    intro hfirst
    refine hmark ?_
    rw [← Ascii.map_ofNat_bytes hmessage, List.head?_map, List.head?_eq_getElem?, hfirst]
    rfl
  rw [errorText_writeError, if_neg fun h ↦ hplain h.2, Ascii.lossy_bytes hmessage]

/-- A capture with the byte that marks an error is read, and shows what it has of the number and the
text. -/
theorem exists_response?_of_mark {m : Message} (hlength : headerLength + 2 ≤ m.data.length)
    (hmark : uint? m.data headerLength 1 = some 0xFF) :
    ∃ m', response? m = some m' ∧
      ShowsError m m' ((uintLittle? m.data (headerLength + 1) 2).getD 0) (errorText m.data) := by
  have hread : response? m = some (((m.putInt Label.sqlErrorCode
      ((uintLittle? m.data (headerLength + 1) 2).getD 0)).putText Label.sqlErrorMsg
        (errorText m.data)).protocolErrorIf
          ((uintLittle? m.data (headerLength + 1) 2).getD 0 ≠ 0)) := by
    rw [response?, if_neg (Nat.not_lt.2 hlength), hmark]
    rfl
  refine ⟨_, hread, ?_, ?_, ?_⟩
  · rw [Dns.find?_protocolErrorIf (by decide), Message.putText, Attributes.find?_putText,
      if_neg (by decide), Message.putInt, Attributes.find?_putInt, if_pos rfl]
  · rw [Dns.find?_protocolErrorIf (by decide), Message.putText, Attributes.find?_putText,
      if_pos rfl]
  · have hkeeps : m.Keeps ((m.putInt Label.sqlErrorCode
        ((uintLittle? m.data (headerLength + 1) 2).getD 0)).putText Label.sqlErrorMsg
          (errorText m.data)) :=
      ((Message.Keeps.refl m).putInt (by decide) _).putText (by decide) _
    rw [Message.find?_isError_protocolErrorIf, hkeeps Label.isError (by decide)]

theorem uint?_mark (bs : List UInt8) :
    uint? (header.toList ++ 0xFF :: bs) headerLength 1 = some 0xFF :=
  (uint?_behind (0xFF :: bs) 0 1 header.length_toList).trans (uint?_one (b := 0xFF) rfl)

/-- What is read of an error packet. -/
theorem exists_response?_writeError (m : Message) :
    ∃ m', response? { m with data := writeError header code text } = some m' ∧
      ShowsError m m' code.toNat (errorText (writeError header code text)) := by
  have hlength : headerLength + 2 ≤ (writeError header code text).length := by
    rw [writeError, List.length_append, length_errorStart, headerLength]
    omega
  have hmark : uint? (writeError header code text) headerLength 1 = some 0xFF := by
    rw [writeError, errorStart, List.append_assoc, List.cons_append]
    exact uint?_mark header _
  have hnumber : uintLittle? (writeError header code text) (headerLength + 1) 2 =
      some code.toNat := by
    have hsplit : writeError header code text =
        (header.toList ++ [0xFF]) ++ ((writeUint 2 code.toNat).reverse ++ text) := by
      simp only [writeError, errorStart, List.append_assoc, List.cons_append, List.nil_append]
    have hbehind := uintLittle?_append (header.toList ++ [0xFF])
      ((writeUint 2 code.toNat).reverse ++ text) 0 2
    rw [List.length_append, Vector.length_toList] at hbehind
    rw [hsplit]
    exact hbehind.trans (uintLittle?_writeUint code.toNat_lt
      (Nat.lt_trans code.toNat_lt (by decide)) text)
  have hread := exists_response?_of_mark (m := { m with data := writeError header code text })
    hlength hmark
  rw [hnumber] at hread
  exact hread

/-- A capture that ends within the number shows neither the number nor a text. -/
theorem exists_response?_short (m : Message) (low : UInt8) :
    ∃ m', response? { m with data := header.toList ++ [0xFF, low] } = some m' ∧
      ShowsError m m' 0 "" := by
  have hlength : (header.toList ++ [0xFF, low]).length = headerLength + 2 := by
    rw [List.length_append, Vector.length_toList]
    rfl
  have hnumber : uintLittle? (header.toList ++ [0xFF, low]) (headerLength + 1) 2 = none := by
    rw [uintLittle?, slice?, if_neg (by rw [hlength]; decide), Option.map_none]
  have htext : errorText (header.toList ++ [0xFF, low]) = "" := by
    have hrest : (header.toList ++ [0xFF, low]).drop 7 = [] :=
      List.drop_eq_nil_of_le (by rw [hlength]; decide)
    rw [errorText, hlength, hrest, Utf8.lossy_nil, if_neg (by simp [headerLength])]
  have hread := exists_response?_of_mark (m := { m with data := header.toList ++ [0xFF, low] })
    (Nat.le_of_eq hlength.symm) (uint?_mark header [low])
  rw [hnumber, htext] at hread
  exact hread

/-- **The text of an error packet.** A packet with a mark, a state and a message is read as the
state, a colon and the message if this has at least two characters, and as it stands, the mark
included, if it has none or one. A packet without a mark is read as its message. With a number other
than zero it is an error. -/
theorem error_read (m : Message) :
    (∀ state message : String, Ascii.IsText state → state.toList.length = 5 →
      Ascii.IsText message →
      ∃ m', response? { m with
          data := writeError header code (0x23 :: (Ascii.bytes state ++ Ascii.bytes message)) } =
            some m' ∧
        ShowsError m m' code.toNat
          (if 2 ≤ message.toList.length then state ++ ":" ++ message
          else "#" ++ state ++ message)) ∧
    (∀ message : String, Ascii.IsText message → message.toList.head? ≠ some '#' →
      ∃ m', response? { m with data := writeError header code (Ascii.bytes message) } = some m' ∧
        ShowsError m m' code.toNat message) ∧
    ∀ low, ∃ m', response? { m with data := header.toList ++ [0xFF, low] } = some m' ∧
      ShowsError m m' 0 "" := by
  refine ⟨fun state message hstate hlength hmessage ↦ ?_, fun message hmessage hmark ↦ ?_,
    exists_response?_short header m⟩
  · rw [← errorText_state header code hstate hlength hmessage]
    exact exists_response?_writeError header code _ m
  · obtain ⟨m', hread, hshows⟩ := exists_response?_writeError header code (Ascii.bytes message) m
    rw [errorText_message header code hmessage hmark] at hshows
    exact ⟨m', hread, hshows⟩

/-- A state in front of the shortest message that shows it, and a text without a state of the same
length. -/
theorem error_read_shortest :
    let header : Vector UInt8 headerLength := #v[11, 0, 0, 1]
    Ascii.IsText "42S02" ∧ "42S02".toList.length = 5 ∧ Ascii.IsText "no" ∧
      Ascii.IsText "No table" ∧ "No table".toList.head? ≠ some '#' ∧
      (∃ m', response? { data := writeError header 1146 (Ascii.bytes "#42S02no") } = some m' ∧
        ShowsError { data := [] } m' 1146 "42S02:no") ∧
      ∃ m', response? { data := writeError header 1146 (Ascii.bytes "No table") } = some m' ∧
        ShowsError { data := [] } m' 1146 "No table" := by
  intro header
  have hstate : Ascii.IsText "42S02" := by decide
  have hshort : Ascii.IsText "no" := by decide
  have hplain : Ascii.IsText "No table" := by decide
  obtain ⟨hmarked, hunmarked, -⟩ := error_read header 1146 { data := [] }
  exact ⟨hstate, rfl, hshort, hplain, by decide, hmarked "42S02" "no" hstate rfl hshort,
    hunmarked "No table" hplain (by decide)⟩

/-- The state of a packet without a message is not seen, and neither is it in front of one
character. -/
theorem state_unseen :
    let header : Vector UInt8 headerLength := #v[9, 0, 0, 1]
    (response? { data := writeError header 1146 (Ascii.bytes "#42S02") }).map
        (·.attributes.find? Label.sqlErrorMsg) = some (some (.text "#42S02")) ∧
      (response? { data := writeError header 1146 (Ascii.bytes "#42S02x") }).map
        (·.attributes.find? Label.sqlErrorMsg) = some (some (.text "#42S02x")) := by
  decide +kernel

end SocketWatch.Wire.Mysql
