import SocketWatch.Proofs.Wire.Guarded.Basic
import SocketWatch.Wire.Kafka
import SocketWatch.Wire.Mysql
/-!
# MySQL and Kafka by position

MySQL and Kafka have what identifies a message at fixed places, behind one check of the length. The
statement of a MySQL command is all that follows; in it, the table is looked for by the number of a
word, and there are no more words than bytes. The name of a Kafka client is as long as the message
says, in 16 bits with a sign.
-/

namespace SocketWatch.Wire

/-! ### MySQL -/

namespace Sql

open Guarded

/-- The word behind the first word that is the marker in any case. -/
def guardedWordAfter (marker : String) (words : List (List Char)) : Guarded (Option (List Char)) :=
  match words.findIdx? fun w ↦ w.map Char.toLower = marker.toList with
  | some i => do
    let next ← add i 1
    return words[next]?
  | none => value none

/-- The operation of a statement and the table it touches. -/
def guardedKey (sql : String) : Guarded String :=
  let words := Text.words sql.toList
  match words.head? with
  | none => value ""
  | some first => do
    let op := String.ofList (first.map Char.toLower)
    let word ← match marker? op with
      | some marker => guardedWordAfter marker words
      | none => value none
    return match word.map trimTable with
      | some (c :: cs) => op ++ " " ++ String.ofList (c :: cs)
      | _ => op

theorem wordAfter?_eq (marker : String) (words : List (List Char)) :
    wordAfter? marker words =
      (words.findIdx? fun w ↦ w.map Char.toLower = marker.toList).bind fun i ↦ words[i + 1]? := by
  induction words with
  | nil => rfl
  | cons w ws ih =>
    rw [wordAfter?, List.findIdx?_cons]
    by_cases hw : w.map Char.toLower = marker.toList
    · rw [if_pos hw, if_pos (decide_eq_true hw)]
      simp [List.head?_eq_getElem?]
    · rw [if_neg hw, if_neg (by simpa using hw), ih, Option.bind_map]
      rfl

theorem guardedWordAfter_eq (marker : String) {words : List (List Char)}
    (hwords : words.length < 0x8000000000000000) :
    guardedWordAfter marker words = value (wordAfter? marker words) := by
  rw [guardedWordAfter, wordAfter?_eq]
  cases hi : words.findIdx? fun w ↦ w.map Char.toLower = marker.toList with
  | none => rfl
  | some i =>
    obtain ⟨hlt, -⟩ := List.findIdx?_eq_some_iff_findIdx_eq.1 hi
    simp only
    rw [add_eq (by omega)]
    rfl

/-- A text has no more words than characters. -/
theorem length_wordsFrom (word cs : List Char) :
    (Text.wordsFrom word cs).length ≤ cs.length + word.length := by
  induction cs generalizing word with
  | nil => cases word <;> simp [Text.wordsFrom]
  | cons c cs ih =>
    have hrest := ih []
    have hlonger := ih (c :: word)
    rw [Text.wordsFrom]
    split
    · cases word <;> simp at hrest ⊢ <;> omega
    · simp at hlonger ⊢
      omega

theorem guardedKey_eq {sql : String} (hsql : sql.toList.length < 0x8000000000000000) :
    guardedKey sql = value (contentKey sql) := by
  have hwords := length_wordsFrom [] sql.toList
  have hwords : (Text.words sql.toList).length < 0x8000000000000000 :=
    Nat.lt_of_le_of_lt hwords hsql
  unfold guardedKey contentKey
  simp only
  cases (Text.words sql.toList).head? with
  | none => rfl
  | some first =>
    simp only
    cases marker? (String.ofList (first.map Char.toLower)) with
    | none => rfl
    | some marker =>
      simp only [guardedWordAfter_eq marker hwords, value_bind, Option.bind_some]
      cases (wordAfter? marker (Text.words sql.toList)).map trimTable with
      | none => rfl
      | some table => cases table <;> rfl

end Sql

/-- A text read from bytes has no more characters than there are bytes. -/
theorem length_scan (bs : List UInt8) : (Utf8.scan bs).length ≤ bs.length := by
  fun_induction Utf8.scan bs <;> simp_all <;> omega

theorem length_lossy (bs : List UInt8) : (Utf8.lossy bs).toList.length ≤ bs.length := by
  rw [Utf8.lossy, String.toList_ofList, List.length_map]
  exact length_scan bs

namespace Mysql

open Guarded

variable {m : Message}

/-- Read a request. -/
def guardedRequest (m : Message) : Guarded Message :=
  if m.data.length ≤ headerLength then refused
  else match byte? m.data headerLength with
  | some 0x03 | some 0x16 => do
    let raw ← getData m.data (headerLength + 1) m.data.length
    let sql := Utf8.lossy raw
    if Sql.isStatement sql then do
      let key ← Sql.guardedKey sql
      return ((m.seek m.data.length).putText Label.contentKey key).putText Label.sql sql
    else refused
  | _ => refused

/-- The text of an error packet. -/
def guardedError (data : List UInt8) : Guarded String :=
  if 14 < data.length && byte? data 7 = some 0x23 then do
    let state ← getData data 8 5
    let text ← getData data 13 data.length
    return Utf8.lossy state ++ ":" ++ Utf8.lossy text
  else do
    let text ← getData data 7 data.length
    return Utf8.lossy text

/-- Read a response. -/
def guardedResponse (m : Message) : Guarded Message :=
  if m.data.length < headerLength + 2 then refused
  else match byte? m.data headerLength with
  | some 0xFF => do
    let number ← (uintLittle m.data (headerLength + 1) 2).attempt
    let code := number.getD 0
    let text ← guardedError m.data
    return ((m.putInt Label.sqlErrorCode code).putText Label.sqlErrorMsg text).protocolErrorIf
      (code ≠ 0)
  | some 0x00 | some 0xFE => value m
  | _ => if m.attributes.contains Label.sql then value m else refused

theorem guardedRequest_eq (hm : Captured m.data) : guardedRequest m = ofOption (request? m) := by
  have hlength := hm.length_lt
  have hsql : (Utf8.lossy (m.data.drop (headerLength + 1))).toList.length < 0x8000000000000000 := by
    have hlossy := length_lossy (m.data.drop (headerLength + 1))
    rw [List.length_drop] at hlossy
    omega
  rw [guardedRequest, request?, uint?_one_eq]
  rcases Nat.lt_or_ge headerLength m.data.length with hlt | hle
  · rw [if_neg (Nat.not_le.2 hlt)]
    cases byte? m.data headerLength with
    | none => rfl
    | some b =>
      by_cases hcommand : b = 0x03 ∨ b = 0x16
      · rcases hcommand with rfl | rfl
        all_goals
          show (getData m.data (headerLength + 1) m.data.length >>= _) = _
          rw [getData_eq hm, value_bind, window_length]
          refine ite_ofOption (fun _ ↦ ?_) fun _ ↦ rfl
          rw [Sql.guardedKey_eq hsql]
          rfl
      · obtain ⟨h₁, h₂⟩ := not_or.1 hcommand
        have h₁' : b.toNat ≠ 0x03 := toNat_ne h₁
        have h₂' : b.toNat ≠ 0x16 := toNat_ne h₂
        simp [h₁, h₂, h₁', h₂']
  · rw [if_pos hle, byte?, List.getElem?_eq_none hle]
    rfl

theorem guardedError_eq {data : List UInt8} (hdata : Captured data) :
    guardedError data = value (errorText data) := by
  rw [guardedError, errorText]
  refine ite_value (fun _ ↦ ?_) fun _ ↦ ?_
  · rw [getData_eq hdata, value_bind, getData_eq hdata, value_bind, window_length]
    rfl
  · rw [getData_eq hdata, value_bind, window_length]
    rfl

theorem guardedResponse_eq (hm : Captured m.data) :
    guardedResponse m = ofOption (response? m) := by
  have hplain : (if m.attributes.contains Label.sql then value m else refused) =
      ofOption (if m.attributes.contains Label.sql then some m else none) := by
    split <;> rfl
  rw [guardedResponse, response?, uint?_one_eq]
  refine ite_ofOption (fun _ ↦ rfl) fun _ ↦ ?_
  cases byte? m.data headerLength with
  | none => exact hplain
  | some b =>
    by_cases herror : b = 0xFF
    · subst herror
      show ((uintLittle m.data (headerLength + 1) 2).attempt >>= _) = _
      rw [uintLittle_eq (by decide), attempt_ofOption, value_bind, guardedError_eq hm, value_bind]
      rfl
    · by_cases hfine : b = 0x00 ∨ b = 0xFE
      · rcases hfine with rfl | rfl <;> rfl
      · obtain ⟨h₁, h₂⟩ := not_or.1 hfine
        have herror' : b.toNat ≠ 0xFF := toNat_ne herror
        have h₁' : b.toNat ≠ 0x00 := toNat_ne h₁
        have h₂' : b.toNat ≠ 0xFE := toNat_ne h₂
        simpa [herror, h₁, h₂, herror', h₁', h₂'] using hplain

end Mysql

/-! ### Kafka -/

namespace Kafka

open Guarded

variable {m : Message}

/-- Read a request. -/
def guardedRequest (m : Message) : Guarded Message :=
  if m.data.length < minRequest then refused
  else do
    let length ← int m.data 0 4
    let apiKey ← int m.data 4 2
    let apiVersion ← int m.data 6 2
    let correlation ← int m.data 8 4
    let clientLength ← int m.data 12 2
    if length ≤ 8 || apiKey < 0 || maxApiKey < apiKey || apiVersion < 0
        || maxApiVersion < apiVersion || correlation < 0 || clientLength < -1 then refused
    else do
      let stop ← add minRequest clientLength.toNat
      if m.data.length < stop then refused
      else value (((m.seek stop).putInt Label.kafkaApiKey apiKey).putInt Label.kafkaCorrelationId
        correlation)

/-- Read a response. -/
def guardedResponse (m : Message) : Guarded Message :=
  if m.data.length < minResponse then refused
  else do
    let length ← int m.data 0 4
    let correlation ← int m.data 4 4
    if length < 4 || correlation < 0 then refused
    else if m.attributes.contains Label.kafkaCorrelationId
        && (m.attributes.getInt Label.kafkaCorrelationId).toInt ≠ correlation then refused
    else value ((m.seek minResponse).putInt Label.kafkaCorrelationId correlation)

/-- A number with a sign is less than half of the words. -/
theorem int?_lt {bs : List UInt8} {start : Nat} {n : Int} (h : Wire.int? bs start 2 = some n) :
    n < 0x8000 := by
  obtain ⟨v, -, rfl⟩ := Option.map_eq_some_iff.1 h
  have hcount : Word.count 16 = 65536 := rfl
  show Int.bmod v (Word.count 16) < _
  rw [hcount]
  have hlt := Int.bmod_lt (x := v) (m := 65536) (by decide)
  omega

theorem int?_of_length_lt {bs : List UInt8} {start size : Nat} (h : bs.length < start + size) :
    Wire.int? bs start size = none := by
  rw [Wire.int?, uint?_of_length_lt h]
  rfl

theorem guardedRequest_eq (m : Message) : guardedRequest m = ofOption (request? m) := by
  rw [guardedRequest]
  split
  · rename_i hshort
    have hnone : Wire.int? m.data 12 2 = none := int?_of_length_lt hshort
    simp [request?, hnone]
  · rw [request?, int_eq (by decide)]
    refine ofOption_bind fun length _ ↦ ?_
    rw [int_eq (by decide)]
    refine ofOption_bind fun apiKey _ ↦ ?_
    rw [int_eq (by decide)]
    refine ofOption_bind fun apiVersion _ ↦ ?_
    rw [int_eq (by decide)]
    refine ofOption_bind fun correlation _ ↦ ?_
    rw [int_eq (by decide)]
    refine ofOption_bind fun clientLength hclient ↦ ?_
    have hlt := int?_lt hclient
    have hroom : minRequest + clientLength.toNat < 0x10000000000000000 := by
      show 14 + clientLength.toNat < _
      omega
    rw [add_eq hroom, value_bind]
    simp only
    by_cases hstop : m.data.length < minRequest + clientLength.toNat
    · rw [if_pos hstop, ite_self, decide_eq_true hstop, Bool.or_true]
      rfl
    · rw [if_neg hstop, decide_eq_false hstop, Bool.or_false]
      exact ite_ofOption (fun _ ↦ rfl) fun _ ↦ rfl

theorem guardedResponse_eq (m : Message) : guardedResponse m = ofOption (response? m) := by
  rw [guardedResponse]
  split
  · rename_i hshort
    have hnone : Wire.int? m.data 4 4 = none := int?_of_length_lt hshort
    simp [response?, hnone]
  · rw [response?, int_eq (by decide)]
    refine ofOption_bind fun length _ ↦ ?_
    rw [int_eq (by decide)]
    refine ofOption_bind fun correlation _ ↦ ?_
    refine ite_ofOption (fun _ ↦ rfl) fun _ ↦ ?_
    exact ite_ofOption (fun _ ↦ rfl) fun _ ↦ rfl

end Kafka

end SocketWatch.Wire
