import SocketWatch.Proofs.Wire.Guarded.Basic
import SocketWatch.Wire.Redis
/-!
# Lines and Redis by position

Redis and HTTP are read by searching for the end of a line. A search gives a position, and what
stands before and behind it is sliced out of the capture. The readers of what is left use
`splitAt?` instead, and that is the same (`splitAt?_eq`), because there is room for a pattern where
it is found (`position?_spec`).
-/

namespace SocketWatch.Wire

namespace Guarded

variable {pattern bs data : List UInt8} {size i : Nat}

/-! ### Searching for a pattern -/

/-- The parts of a size, from each position where there is one. -/
def windows (size : Nat) : List UInt8 → List (List UInt8)
  | [] => []
  | b :: bs => if size ≤ bs.length + 1 then (b :: bs).take size :: windows size bs else []

/-- Where a pattern occurs first. -/
def position? (pattern bs : List UInt8) : Option Nat :=
  (windows pattern.length bs).findIdx? (· = pattern)

theorem getElem?_windows (hsize : 0 < size) : (windows size bs)[i]? = slice? bs i size := by
  induction bs generalizing i with
  | nil =>
    rw [slice?, if_neg (by simp only [List.length_nil]; omega)]
    rfl
  | cons b bs ih =>
    rw [windows]
    split
    · cases i with
      | zero =>
        rw [slice?, if_pos (by simp only [List.length_cons]; omega)]
        rfl
      | succ i =>
        have hiff : i + 1 + size ≤ bs.length + 1 ↔ i + size ≤ bs.length := by omega
        rw [List.getElem?_cons_succ, ih]
        simp only [slice?, List.length_cons, List.drop_succ_cons, hiff]
    · rw [slice?, if_neg (by simp only [List.length_cons]; omega)]
      rfl

theorem length_windows (bs : List UInt8) (hsize : 0 < size) :
    (windows size bs).length = bs.length + 1 - size := by
  induction bs with
  | nil => simp only [windows, List.length_nil]; omega
  | cons b bs ih =>
    rw [windows]
    split
    · rw [List.length_cons, ih, List.length_cons]
      omega
    · simp only [List.length_nil, List.length_cons]
      omega

/-- Where a pattern is found, there it is. -/
theorem of_windows (hpattern : 0 < pattern.length)
    (h : (windows pattern.length bs)[i]? = some pattern) :
    i + pattern.length ≤ bs.length ∧ bs.take (i + pattern.length) = bs.take i ++ pattern := by
  rw [getElem?_windows hpattern] at h
  obtain ⟨-, hle⟩ := length_of_slice? h
  rw [slice?, if_pos hle] at h
  exact ⟨hle, by rw [List.take_add, Option.some.inj h]⟩

theorem position?_spec (hpattern : 0 < pattern.length) (h : position? pattern bs = some i) :
    i + pattern.length ≤ bs.length ∧ bs.take (i + pattern.length) = bs.take i ++ pattern := by
  obtain ⟨hlt, hget, -⟩ := List.findIdx?_eq_some_iff_getElem.1 h
  refine of_windows hpattern ?_
  rw [List.getElem?_eq_getElem hlt, of_decide_eq_true hget]

theorem windows_of_length_lt (h : bs.length < size) : windows size bs = [] := by
  cases bs with
  | nil => rfl
  | cons b bs => exact if_neg (Nat.not_le.2 h)

/-- Splitting at a pattern is slicing at its position. -/
theorem splitAt?_eq (pattern bs : List UInt8) :
    splitAt? pattern bs =
      (position? pattern bs).map fun i ↦ (bs.take i, bs.drop (i + pattern.length)) := by
  unfold position?
  induction bs with
  | nil => rfl
  | cons b bs ih =>
    rw [splitAt?, windows, ih]
    by_cases hprefix : pattern.isPrefixOf (b :: bs)
    · have hpart : (b :: bs).take pattern.length = pattern :=
        (List.prefix_iff_eq_take.1 (List.isPrefixOf_iff_prefix.1 hprefix)).symm
      have hle : pattern.length ≤ bs.length + 1 :=
        (List.isPrefixOf_iff_prefix.1 hprefix).length_le
      rw [if_pos hprefix, if_pos hle, List.findIdx?_cons, hpart, if_pos (decide_eq_true rfl)]
      simp
    · rw [if_neg hprefix]
      split
      · have hpart : (b :: bs).take pattern.length ≠ pattern := fun heq ↦
          hprefix (List.isPrefixOf_iff_prefix.2 (heq ▸ List.take_prefix _ _))
        rw [List.findIdx?_cons, if_neg (by simpa using hpart), Option.map_map, Option.map_map]
        congr 1
        funext i
        simp [Nat.add_right_comm]
      · rw [windows_of_length_lt (by omega)]
        rfl

/-! ### Lines -/

/-- The line from a position and the position behind its end. -/
def readLine (data : List UInt8) (offset : Nat) : Guarded (List UInt8 × Nat) := do
  let rest ← ofOption (range? data offset data.length)
  let pos ← ofOption (position? crlf rest)
  let line ← range rest 0 pos
  let stop ← add offset pos
  let behind ← add stop 2
  return (line, behind)

theorem suffix_of_line? {bs line rest : List UInt8} (h : line? bs = some (line, rest)) :
    rest <:+ bs := by
  rw [line?, splitAt?_eq] at h
  obtain ⟨pos, -, h⟩ := Option.map_eq_some_iff.1 h
  cases h
  exact List.drop_suffix _ _

theorem readLine_eq (hdata : Captured data) (h : i ≤ data.length) :
    readLine data i = ofOption ((line? (data.drop i)).map (placed data)) := by
  have hlength := hdata.length_lt
  rw [readLine, range?_length h, ofOption_some, value_bind, line?, splitAt?_eq, Option.map_map,
    Option.map_eq_bind]
  refine ofOption_bind fun pos hpos ↦ ?_
  obtain ⟨hle, -⟩ := position?_spec (by decide) hpos
  rw [List.length_drop] at hle
  replace hle : pos + 2 ≤ data.length - i := hle
  have hplaced : placed data ((data.drop i).take pos, (data.drop i).drop (pos + 2)) =
      ((data.drop i).take pos, i + pos + 2) := by
    rw [List.drop_drop]
    exact placed_drop (by omega)
  rw [range_eq (by omega) (by rw [List.length_drop]; omega), value_bind, add_eq (by omega),
    value_bind, add_eq (by omega), value_bind]
  exact congrArg value hplaced.symm

end Guarded

/-! ### Redis -/

namespace Redis

open Guarded

variable {data : List UInt8} {i : Nat}

/-- The number in a line that starts with a mark, and the position behind the line. -/
def guardedMarked (mark : UInt8) (data : List UInt8) (offset : Nat) : Guarded (Int × Nat) :=
  if byte? data offset = some mark then do
    let start ← add offset 1
    let line ← readLine data start
    let n ← ofOption (int? line.1)
    return (n, line.2)
  else refused

/-- The command word of an array of bulk strings, and the position behind the word. -/
def guardedCommand (data : List UInt8) : Guarded (List UInt8 × Nat) := do
  let count ← guardedMarked 0x2A data 0
  if count.1 ≤ 0 then refused
  else
    let size ← guardedMarked 0x24 data count.2
    if size.1 < 0 then refused
    else
      let word ← getData data size.2 size.1.toNat
      if word.length = size.1.toNat && isCommand word then
        let stop ← add size.2 size.1.toNat
        return (word, stop)
      else refused

/-- Read a request. -/
def guardedRequest (m : Message) : Guarded Message := do
  let command ← guardedCommand m.data
  return (m.seek command.2).putText Label.redisCommand (Ascii.upper (Utf8.lossy command.1))

/-- The text of an error reply. -/
def guardedError (data : List UInt8) : Guarded (List UInt8) := do
  let line ← (readLine data 1).attempt
  line.elim (getData data 1 data.length) fun line ↦ value line.1

/-- Read a response. -/
def guardedResponse (m : Message) : Guarded Message :=
  match byte? m.data 0 with
  | some 0x2B | some 0x2A | some 0x24 | some 0x3A => value m
  | some 0x2D => do
    let text ← guardedError m.data
    return (m.putText Label.redisError (Utf8.lossy text)).protocolError
  | _ => refused

theorem guardedMarked_eq (mark : UInt8) (hdata : Captured data) :
    guardedMarked mark data i = ofOption ((marked? mark (data.drop i)).map (placed data)) := by
  have hlength := hdata.length_lt
  rw [guardedMarked]
  rcases Nat.lt_or_ge i data.length with hlt | hge
  · rw [List.drop_eq_getElem_cons hlt, byte?, List.getElem?_eq_getElem hlt, marked?]
    by_cases hmark : data[i] = mark
    · rw [if_pos (congrArg some hmark), if_pos hmark, add_eq (by omega), value_bind,
        readLine_eq hdata hlt]
      show _ = ofOption (((line? (data.drop (i + 1))).bind fun x ↦
        (int? x.1).bind fun n ↦ some (n, x.2)).map (placed data))
      rw [Option.map_bind]
      refine ofOption_map_bind fun x _ ↦ ?_
      show (ofOption (int? x.1) >>= _) = ofOption (((int? x.1).bind _).map _)
      rw [Option.map_bind]
      exact ofOption_bind fun n _ ↦ rfl
    · rw [if_neg (fun heq ↦ hmark (Option.some.inj heq)), if_neg hmark]
      rfl
  · rw [List.drop_eq_nil_of_le hge, byte?, List.getElem?_eq_none hge]
    rfl

theorem suffix_of_marked? {mark : UInt8} {bs rest : List UInt8} {n : Int}
    (h : marked? mark bs = some (n, rest)) : rest <:+ bs := by
  cases bs with
  | nil => cases h
  | cons b bs =>
    rw [marked?] at h
    split at h
    · obtain ⟨⟨line, rest'⟩, hline, h⟩ := Option.bind_eq_some_iff.1 h
      obtain ⟨n', -, h⟩ := Option.bind_eq_some_iff.1 h
      cases h
      exact (suffix_of_line? hline).trans (List.suffix_cons _ _)
    · cases h

theorem guardedCommand_eq (hdata : Captured data) :
    guardedCommand data = ofOption ((command? data).map (placed data)) := by
  have hlength := hdata.length_lt
  have hfirst := guardedMarked_eq (i := 0) 0x2A hdata
  rw [List.drop_zero] at hfirst
  rw [guardedCommand, command?, hfirst]
  show _ = ofOption (Option.map _ (Option.bind _ _))
  rw [Option.map_bind]
  refine ofOption_map_bind fun ⟨count, rest⟩ hcount ↦ ?_
  -- `i` is the position behind the count, `j` below the one behind the length of the word
  have hrest := suffix_of_marked? hcount
  obtain ⟨i, hi, rfl⟩ := exists_eq_drop hrest
  rw [placed_drop hi]
  simp only [Function.comp_apply]
  split
  · rfl
  · rw [guardedMarked_eq 0x24 hdata]
    show _ = ofOption (Option.map _ (Option.bind _ _))
    rw [Option.map_bind]
    refine ofOption_map_bind fun ⟨size, rest⟩ hsize ↦ ?_
    obtain ⟨j, hj, rfl⟩ := exists_eq_drop ((suffix_of_marked? hsize).trans hrest)
    rw [placed_drop hj]
    simp only [Function.comp_apply]
    split
    · rfl
    · rw [getData_eq hdata, value_bind, window]
      split
      · rename_i hword
        have hroom : size.toNat ≤ data.length - j := by
          simp at hword
          omega
        rw [add_eq (by omega), value_bind, List.drop_drop, Option.map_some, placed_drop (by omega)]
        rfl
      · rfl

theorem guardedRequest_eq {m : Message} (hm : Captured m.data) :
    guardedRequest m = ofOption (request? m) := by
  rw [guardedRequest, guardedCommand_eq hm]
  exact ofOption_map_bind fun _ _ ↦ rfl

theorem guardedError_eq (hdata : Captured data) (h : 1 ≤ data.length) :
    guardedError data =
      value (((line? (data.drop 1)).map (·.1)).getD (data.drop 1)) := by
  rw [guardedError, readLine_eq hdata h, attempt_ofOption, value_bind]
  cases line? (data.drop 1) with
  | none =>
    show getData data 1 data.length = _
    rw [getData_eq hdata, window_length]
    rfl
  | some found => rfl

theorem guardedResponse_eq {m : Message} (hm : Captured m.data) :
    guardedResponse m = ofOption (response? m) := by
  unfold guardedResponse response?
  cases hdata : m.data with
  | nil => rfl
  | cons b rest =>
    rw [hdata] at hm
    by_cases hplain : b = 0x2B ∨ b = 0x2A ∨ b = 0x24 ∨ b = 0x3A
    · rcases hplain with rfl | rfl | rfl | rfl <;> rfl
    · by_cases herror : b = 0x2D
      · subst herror
        show (guardedError (0x2D :: rest) >>= _) = _
        rw [guardedError_eq hm (Nat.succ_pos _), value_bind]
        rfl
      · have hnone : byte? (b :: rest) 0 = some b := rfl
        simp only [not_or] at hplain
        obtain ⟨h₁, h₂, h₃, h₄⟩ := hplain
        simp [hnone, h₁, h₂, h₃, h₄, herror]

end Redis

end SocketWatch.Wire
