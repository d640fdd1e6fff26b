import SocketWatch.Proofs.Fields
import SocketWatch.Proofs.Text.Ascii
import SocketWatch.Proofs.Text.Numeral
import SocketWatch.Proofs.Wire.Guarded.Basic
import SocketWatch.Wire.Redis
/-!
# Commands, written and captured

A command is an array of bulk strings: how many there are, and then each of them behind its length.
Only the first one is looked at, and a capture that has all of it is read as the whole command would
be (`command?_upToWord`).

That no shorter capture is read needs no look at where the cut is. What is read from a capture is
read from every longer one too, with as much more behind the word (`command?_append`), and behind the
word of the whole command there is what was written there. So there is no room for a word that ends
elsewhere.
-/

namespace SocketWatch.Wire.Redis

variable {mark : UInt8} {n : Nat} {i : Int} {bs word rest : List UInt8}

/-! ### Captures -/

theorem marked?_append (h : marked? mark bs = some (i, rest)) (more : List UInt8) :
    marked? mark (bs ++ more) = some (i, rest ++ more) := by
  cases bs with
  | nil => cases h
  | cons b bs =>
    rw [marked?] at h
    split at h
    · rename_i hmark
      obtain ⟨⟨line, r⟩, hline, h⟩ := Option.bind_eq_some_iff.1 h
      obtain ⟨j, hj, h⟩ := Option.bind_eq_some_iff.1 h
      cases h
      have hmore : line? (bs ++ more) = some (line, rest ++ more) :=
        splitAt?_append_of_eq_some hline more
      rw [List.cons_append, marked?, if_pos hmark, hmore]
      show (int? line).bind _ = _
      rw [hj]
      rfl
    · cases h

/-- What a command is: a positive number of parts, the length of the first one, and this. -/
theorem command?_eq_some_iff :
    command? bs = some (word, rest) ↔
      ∃ count r, marked? 0x2A bs = some (count, r) ∧ 0 < count ∧
        marked? 0x24 r = some ((word.length : Int), word ++ rest) ∧ isCommand word = true := by
  constructor
  · intro h
    obtain ⟨⟨count, r⟩, hcount, h⟩ := Option.bind_eq_some_iff.1 h
    simp only at h
    split at h
    · cases h
    · rename_i hpositive
      obtain ⟨⟨size, r'⟩, hsize, h⟩ := Option.bind_eq_some_iff.1 h
      simp only at h
      split at h
      · cases h
      · rename_i hsigned
        split at h
        · rename_i hword
          cases h
          rw [Bool.and_eq_true, decide_eq_true_eq] at hword
          have hlength : ((r'.take size.toNat).length : Int) = size := by
            rw [hword.1]
            exact Int.toNat_of_nonneg (Int.not_lt.1 hsigned)
          refine ⟨count, r, hcount, Int.not_le.1 hpositive, ?_, hword.2⟩
          rw [hlength, List.take_append_drop]
          exact hsize
        · cases h
  · rintro ⟨count, r, hcount, hpositive, hsize, hword⟩
    have hnonneg : ¬ (word.length : Int) < 0 := Int.not_lt.2 (Int.natCast_nonneg _)
    simp only [command?, hcount, hsize, Option.bind_eq_bind, Option.bind_some,
      if_neg (Int.not_le.2 hpositive), if_neg hnonneg, Int.toNat_natCast, List.take_left,
      List.drop_left, decide_true, Bool.true_and, if_pos hword]

/-- What is read from a capture is read from every longer one. -/
theorem command?_append (h : command? bs = some (word, rest)) (more : List UInt8) :
    command? (bs ++ more) = some (word, rest ++ more) := by
  obtain ⟨count, r, hcount, hpositive, hsize, hword⟩ := command?_eq_some_iff.1 h
  have hmore := marked?_append hsize more
  rw [List.append_assoc] at hmore
  exact command?_eq_some_iff.2 ⟨count, r ++ more, marked?_append hcount more, hpositive, hmore, hword⟩

/-! ### Writing -/

/-- A line with a mark and a number. -/
def writeMarked (mark : UInt8) (n : Nat) : List UInt8 :=
  mark :: (Ascii.bytes (Numeral.natText n) ++ crlf)

/-- A bulk string: its length, and its bytes. -/
def writeBulk (bs : List UInt8) : List UInt8 := writeMarked 0x24 bs.length ++ (bs ++ crlf)

theorem isText_natText (n : Nat) : Ascii.IsText (Numeral.natText n) := by
  intro c hc
  have hdigit : c.isDigit = true := Numeral.isDigit_of_mem_toDigits (String.toList_ofList ▸ hc)
  have hrange : 48 ≤ c.toNat ∧ c.toNat ≤ 57 := Char.isDigit_iff_toNat.1 hdigit
  omega

/-- A number that has 63 bits is read back. -/
theorem marked?_writeMarked (h : n < Word.count 63) (mark : UInt8) (rest : List UInt8) :
    marked? mark (writeMarked mark n ++ rest) = some ((n : Int), rest) := by
  have hdigits : (Numeral.natText n).toList = Nat.toDigits 10 n := String.toList_ofList
  have hfeed : 10 ∉ Ascii.bytes (Numeral.natText n) ++ [13] := by
    intro hmem
    rcases List.mem_append.1 hmem with hmem | hmem
    · have hchar := Ascii.mem_toList_of_mem_bytes (isText_natText n) hmem
      rw [hdigits] at hchar
      cases Numeral.isDigit_of_mem_toDigits hchar
    · cases List.mem_singleton.1 hmem
  have hline : line? (Ascii.bytes (Numeral.natText n) ++ crlf ++ rest) =
      some (Ascii.bytes (Numeral.natText n), rest) :=
    splitAt?_append (fun hoccurs ↦ hfeed (hoccurs.subset (show 10 ∈ crlf by decide))) rest
  have hint : int? (Ascii.bytes (Numeral.natText n)) = some (n : Int) := by
    rw [int?, Ascii.map_ofNat_bytes (isText_natText n), hdigits, Numeral.int64?_toDigits h]
  rw [writeMarked, List.cons_append, marked?, if_pos rfl, hline]
  show (int? _).bind _ = _
  rw [hint]
  rfl

/-! ### Commands -/

/-- A command: a word of at most 20 letters, and its arguments. -/
structure Command where
  /-- The command word. -/
  word : String
  /-- The arguments, of any bytes. -/
  arguments : List (List UInt8)
  /-- The word has letters only. -/
  isAlpha_of_mem : ∀ c ∈ word.toList, c.isAlpha = true
  /-- The word has one letter at least and 20 at most. -/
  length_word : 1 ≤ word.toList.length ∧ word.toList.length ≤ 20

namespace Command

variable (c : Command)

/-- A command as it is written: an array of bulk strings, the word first. -/
def write : List UInt8 :=
  writeMarked 0x2A (c.arguments.length + 1) ++
    (Ascii.bytes c.word :: c.arguments).flatMap writeBulk

/-- A command up to the last byte of its word. -/
def upToWord : List UInt8 :=
  writeMarked 0x2A (c.arguments.length + 1) ++
    (writeMarked 0x24 c.word.toList.length ++ Ascii.bytes c.word)

theorem write_eq : c.write = c.upToWord ++ (crlf ++ c.arguments.flatMap writeBulk) := by
  simp only [write, upToWord, writeBulk, List.flatMap_cons, List.append_assoc, Ascii.length_bytes]

theorem isText_word : Ascii.IsText c.word := fun l hl ↦
  (Ascii.isLetter_ofNat (c.isAlpha_of_mem l hl)).1

theorem isCommand_word : isCommand (Ascii.bytes c.word) = true := by
  have hlength := c.length_word
  have hne : Ascii.bytes c.word ≠ [] := by
    rw [← List.length_pos_iff, Ascii.length_bytes]
    exact hlength.1
  have hletters : (Ascii.bytes c.word).all Ascii.isLetter = true := by
    rw [List.all_eq_true]
    intro b hb
    obtain ⟨l, hl, rfl⟩ := List.mem_map.1 hb
    exact (Ascii.isLetter_ofNat (c.isAlpha_of_mem l hl)).2
  simp [isCommand, hne, hletters, maxCommand, hlength.2]

/-- A bulk string is written in at least one byte, so a command that fits into memory has a number
of parts that can be read. -/
theorem length_arguments_lt (h : Guarded.Captured c.write) :
    c.arguments.length + 1 < Word.count 63 := by
  have hparts (parts : List (List UInt8)) : parts.length ≤ (parts.flatMap writeBulk).length := by
    induction parts with
    | nil => exact Nat.zero_le _
    | cons bs parts ih =>
      rw [List.flatMap_cons, List.length_append, writeBulk, writeMarked, List.length_append]
      simp only [List.length_cons]
      omega
  refine Nat.lt_of_le_of_lt ?_ h
  rw [write, List.length_append]
  exact Nat.le_add_left_of_le (hparts (Ascii.bytes c.word :: c.arguments))

/-- Behind the word it does not matter what was captured. -/
theorem command?_upToWord (h : Guarded.Captured c.write) (rest : List UInt8) :
    command? (c.upToWord ++ rest) = some (Ascii.bytes c.word, rest) := by
  have hcount : marked? 0x2A (c.upToWord ++ rest) = some (((c.arguments.length + 1 : Nat) : Int),
      writeMarked 0x24 c.word.toList.length ++ (Ascii.bytes c.word ++ rest)) := by
    rw [upToWord, List.append_assoc, marked?_writeMarked (c.length_arguments_lt h),
      List.append_assoc]
  have hsize : marked? 0x24 (writeMarked 0x24 c.word.toList.length ++ (Ascii.bytes c.word ++ rest)) =
      some (((Ascii.bytes c.word).length : Int), Ascii.bytes c.word ++ rest) := by
    rw [marked?_writeMarked (Nat.lt_of_le_of_lt c.length_word.2 (by decide)), Ascii.length_bytes]
  exact command?_eq_some_iff.2
    ⟨_, _, hcount, Int.natCast_pos.2 (Nat.succ_pos _), hsize, c.isCommand_word⟩

/-- A capture that does not have all of the word is refused. -/
theorem command?_take_of_lt (h : Guarded.Captured c.write) {cut : Nat}
    (hcut : cut < c.upToWord.length) : command? (c.write.take cut) = none := by
  by_contra hread
  obtain ⟨⟨word, rest⟩, hread⟩ := Option.ne_none_iff_exists'.1 hread
  -- the whole command is read as this capture is, and what is left of it has no room for the cut
  have hwhole := command?_append hread (c.write.drop cut)
  rw [List.take_append_drop, c.write_eq, c.command?_upToWord h] at hwhole
  have hleft := congrArg List.length (Prod.mk.inj (Option.some.inj hwhole)).2
  simp only [List.length_append, List.length_drop] at hleft
  omega

/-- **A command is recognised exactly when its word was captured.** A capture of a command that fits
into memory is read if and only if the cut is not in front of the last byte of the word. Then the
word is read in capitals, and the position is that behind the word. -/
theorem recognised_iff (hwrite : Guarded.Captured c.write) (m : Message) (cut : Nat) :
    ((request? { m with data := c.write.take cut }).isSome ↔ c.upToWord.length ≤ cut) ∧
      ∀ m', request? { m with data := c.write.take cut } = some m' →
        m'.offset = c.upToWord.length ∧
          m'.attributes.find? Label.redisCommand = some (.text (Ascii.upper c.word)) := by
  rcases Nat.lt_or_ge cut c.upToWord.length with hlt | hge
  · have hnone : request? { m with data := c.write.take cut } = none := by
      simp only [request?, c.command?_take_of_lt hwrite hlt, Option.bind_eq_bind, Option.bind_none]
    rw [hnone]
    exact ⟨iff_of_false Bool.false_ne_true (Nat.not_le.2 hlt), fun m' hread ↦ by cases hread⟩
  · obtain ⟨rest, hcapture⟩ : ∃ rest, c.write.take cut = c.upToWord ++ rest := by
      rw [write_eq, List.take_append, List.take_of_length_le hge]
      exact ⟨_, rfl⟩
    rw [hcapture]
    have hread : request? { m with data := c.upToWord ++ rest } = some
        (({ m with data := c.upToWord ++ rest }.seek c.upToWord.length).putText Label.redisCommand
          (Ascii.upper c.word)) := by
      have hoffset : (c.upToWord ++ rest).length - rest.length = c.upToWord.length := by
        rw [List.length_append, Nat.add_sub_cancel_right]
      simp only [request?, c.command?_upToWord hwrite, Option.bind_eq_bind, Option.bind_some, hoffset,
        Ascii.lossy_bytes c.isText_word]
    rw [hread]
    refine ⟨iff_of_true rfl hge, fun m' hm' ↦ ?_⟩
    cases hm'
    refine ⟨rfl, ?_⟩
    rw [Message.putText, Attributes.find?_putText, if_pos rfl]

/-- A word with an argument of other bytes behind it, in a capture that ends with the word and in one
that lacks the last letter. -/
theorem recognised_iff_expire :
    let c : Command := {
      word := "Expire", arguments := [[0x0D, 0x0A], [0xFF]]
      isAlpha_of_mem := List.all_eq_true.1 (by decide), length_word := by decide }
    Guarded.Captured c.write ∧ c.upToWord = Ascii.bytes "*3\r\n$6\r\nExpire" ∧
      (∃ m', request? { data := c.write.take 14 } = some m' ∧ m'.offset = 14 ∧
        m'.attributes.find? Label.redisCommand = some (.text "EXPIRE")) ∧
      ¬ (request? { data := c.write.take 13 }).isSome := by
  intro c
  have hwrite : Guarded.Captured c.write := show c.write.length < Word.count 63 by decide +kernel
  have hlength : c.upToWord.length = 14 := by decide +kernel
  obtain ⟨hiff, hread⟩ := recognised_iff c hwrite { data := [] } 14
  obtain ⟨m', hm'⟩ := Option.isSome_iff_exists.1 (hiff.2 (Nat.le_of_eq hlength))
  obtain ⟨hoffset, hword⟩ := hread m' hm'
  refine ⟨hwrite, by decide +kernel, ⟨m', hm', hoffset.trans hlength, ?_⟩, fun hshort ↦ ?_⟩
  · rw [hword]
    decide +kernel
  · have hle := (recognised_iff c hwrite { data := [] } 13).1.1 hshort
    rw [hlength] at hle
    exact absurd hle (by decide)

end Command

end SocketWatch.Wire.Redis
