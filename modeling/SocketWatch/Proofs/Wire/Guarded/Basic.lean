import Mathlib.Data.List.Basic
import SocketWatch.Proofs.Wire.Bytes
import SocketWatch.Wire.Message
/-!
# Reading by position

The readers of the protocols take what is left of a capture apart, so nothing in them can reach past
its end. A program reads by position, in words of 64 bits, and there a step can be at fault: an
index or a slice reaches past the end, a sum does not fit the word, a loop does not come to its end.
The steps below are those of such a program, and a fault is an outcome of its own (`Guarded`),
different from a refusal.

Each step has a lemma that says when it is free of faults and what it is then. Most of them need no
more than that the capture fits into memory, where nothing has `2 ^ 63` bytes (`Captured`): a
position in it has room for all lengths of 32 bits before it leaves the word.
-/

namespace SocketWatch.Wire

/-- What a program may not do. -/
inductive Fault where
  /-- An index or a slice reaches past the end. -/
  | outOfRange
  /-- A sum or a difference does not fit the word. -/
  | overflow
  /-- A loop goes on after it has looked at every byte. -/
  | endless
deriving DecidableEq, Repr

/-- The outcome of a computation that may refuse its input and may be at fault. -/
inductive Guarded (α : Type) where
  /-- A value. -/
  | value (a : α)
  /-- The input is refused. -/
  | refused
  /-- The computation is at fault. -/
  | fault (cause : Fault)
deriving DecidableEq, Repr

namespace Guarded

variable {α β : Type}

instance : Monad Guarded where
  pure := .value
  bind x f := match x with
    | .value a => f a
    | .refused => .refused
    | .fault cause => .fault cause

/-- The value there is, or a refusal. -/
def ofOption : Option α → Guarded α
  | some a => .value a
  | none => .refused

/-- The value there has to be. -/
def demand (cause : Fault) : Option α → Guarded α
  | some a => .value a
  | none => .fault cause

/-- Go on after a refusal. -/
def attempt : Guarded α → Guarded (Option α)
  | .value a => .value (some a)
  | .refused => .value none
  | .fault cause => .fault cause

@[simp] theorem value_bind (a : α) (f : α → Guarded β) : (value a >>= f) = f a := rfl

@[simp] theorem refused_bind (f : α → Guarded β) : (refused >>= f) = refused := rfl

@[simp] theorem pure_eq (a : α) : (pure a : Guarded α) = value a := rfl

@[simp] theorem attempt_ofOption (o : Option α) : (ofOption o).attempt = value o := by
  cases o <;> rfl

theorem ofOption_ne_fault (o : Option α) (cause : Fault) : ofOption o ≠ fault cause := by
  cases o <;> exact fun h ↦ nomatch h

@[simp] theorem ofOption_some (a : α) : ofOption (some a) = value a := rfl

@[simp] theorem ofOption_none : ofOption (none : Option α) = refused := rfl

/-- What follows a step that may refuse. -/
theorem ofOption_bind {o : Option α} {f : α → Guarded β} {g : α → Option β}
    (h : ∀ a, o = some a → f a = ofOption (g a)) : (ofOption o >>= f) = ofOption (o.bind g) := by
  cases o with
  | none => rfl
  | some a => exact h a rfl

theorem ofOption_map_bind {γ : Type} {o : Option α} {place : α → γ} {f : γ → Guarded β}
    {g : α → Option β} (h : ∀ a, o = some a → f (place a) = ofOption (g a)) :
    (ofOption (o.map place) >>= f) = ofOption (o.bind g) := by
  cases o with
  | none => rfl
  | some a => exact h a rfl

theorem ite_ofOption {condition : Prop} [Decidable condition] {x y : Guarded α} {o p : Option α}
    (hx : condition → x = ofOption o) (hy : ¬condition → y = ofOption p) :
    (if condition then x else y) = ofOption (if condition then o else p) := by
  split
  · exact hx ‹_›
  · exact hy ‹_›

theorem ite_value {condition : Prop} [Decidable condition] {x y : Guarded α} {a b : α}
    (hx : condition → x = value a) (hy : ¬condition → y = value b) :
    (if condition then x else y) = value (if condition then a else b) := by
  split
  · exact hx ‹_›
  · exact hy ‹_›

/-! ### Sums -/

/-- A sum in words of so many bits. -/
def addIn (bits a b : Nat) : Guarded Nat :=
  if a + b < Word.count bits then value (a + b) else fault .overflow

/-- A sum of positions. -/
def add (a b : Nat) : Guarded Nat := addIn 64 a b

/-- A difference of positions. -/
def sub (a b : Nat) : Guarded Nat := if b ≤ a then value (a - b) else fault .overflow

/-- The greatest position. -/
def maxPosition : Nat := Word.count 64 - 1

/-- A sum of positions that stops at the greatest one. -/
def addCapped (a b : Nat) : Nat := min (a + b) maxPosition

theorem add_eq {a b : Nat} (h : a + b < 0x10000000000000000) : add a b = value (a + b) :=
  if_pos h

theorem addIn_eq {bits a b : Nat} (h : a + b < Word.count bits) : addIn bits a b = value (a + b) :=
  if_pos h

theorem sub_eq {a b : Nat} (h : b ≤ a) : sub a b = value (a - b) := if_pos h

theorem addCapped_eq (a b : Nat) : addCapped a b = min (a + b) 0xFFFFFFFFFFFFFFFF := rfl

/-! ### Slices -/

/-- A byte list that fits into memory. -/
def Captured (bs : List UInt8) : Prop := bs.length < Word.count 63

theorem Captured.length_lt {bs : List UInt8} (h : Captured bs) :
    bs.length < 0x8000000000000000 := h

section

variable (bs : List UInt8)

/-- The byte at a position, where there is one. -/
def byte? (i : Nat) : Option UInt8 := bs[i]?

/-- The byte at a position. -/
def byte (i : Nat) : Guarded UInt8 := demand .outOfRange (byte? bs i)

/-- The bytes from one position up to another, where there are such. -/
def range? (start stop : Nat) : Option (List UInt8) :=
  if start ≤ stop ∧ stop ≤ bs.length then some ((bs.drop start).take (stop - start)) else none

/-- The bytes from one position up to another. -/
def range (start stop : Nat) : Guarded (List UInt8) := demand .outOfRange (range? bs start stop)

/-- So many bytes from a position, one by one. -/
def bytes (start : Nat) : Nat → Guarded (List UInt8)
  | 0 => value []
  | n + 1 => do
    let b ← byte bs start
    let rest ← bytes (start + 1) n
    return b :: rest

/-- The unsigned number of `size` bytes at a position, most significant byte first. -/
def uint (start size : Nat) : Guarded Nat := do
  let stop ← add start size
  let part ← ofOption (range? bs start stop)
  let digits ← bytes part 0 size
  return bigEndian digits

/-- The signed number of `size` bytes at a position, most significant byte first. -/
def int (start size : Nat) : Guarded Int := do
  let n ← uint bs start size
  return Word.signed (8 * size) n

/-- The unsigned number of `size` bytes at a position, least significant byte first. -/
def uintLittle (start size : Nat) : Guarded Nat := do
  let stop ← add start size
  let part ← ofOption (range? bs start stop)
  return littleEndian part % Word.count 32

/-- The bytes from a position, at most `length` of them. -/
def getData (start length : Nat) : Guarded (List UInt8) :=
  range bs (min start bs.length) (min (addCapped start length) bs.length)

/-- The bytes from a position up to the next space, at most `limit` of them, and the position behind
the space. -/
def untilBlankWithin (start limit : Nat) : Guarded (Nat × List UInt8) := do
  let first := min start bs.length
  let stop := min (addCapped start limit) bs.length
  let part ← range bs first stop
  match part.findIdx? (· = 0x20) with
  | some pos => do
    let blank ← add first pos
    let behind ← add blank 1
    let word ← range bs first blank
    return (behind, word)
  | none => do
    let word ← range bs first stop
    return (stop, word)

/-- The bytes from a position up to the next space, and the position behind it. -/
def untilBlank (start : Nat) : Guarded (Nat × List UInt8) := untilBlankWithin bs start maxPosition

end

/-- What a reader of what is left returns, by position: where its own rest starts. -/
def placed (data : List UInt8) (read : α × List UInt8) : α × Nat :=
  (read.1, data.length - read.2.length)

variable {bs : List UInt8} {start stop size limit : Nat}

theorem placed_drop_min (bs : List UInt8) (a : α) (start : Nat) :
    placed bs (a, bs.drop start) = (a, min start bs.length) := by
  rw [placed, List.length_drop]
  exact congrArg (a, ·) (by omega)

theorem placed_drop {a : α} (h : start ≤ bs.length) :
    placed bs (a, bs.drop start) = (a, start) := by
  rw [placed_drop_min, Nat.min_eq_left h]

theorem exists_eq_drop {rest : List UInt8} (h : rest <:+ bs) :
    ∃ i, i ≤ bs.length ∧ rest = bs.drop i :=
  ⟨bs.length - rest.length, Nat.sub_le _ _, List.suffix_iff_eq_drop.1 h⟩

/-- What is left starts where it is placed. -/
theorem drop_placed {read : α × List UInt8} (h : read.2 <:+ bs) :
    bs.drop (placed bs read).2 = read.2 :=
  (List.suffix_iff_eq_drop.1 h).symm

theorem byte_eq {i : Nat} (h : i < bs.length) : byte bs i = value bs[i] := by
  rw [byte, byte?, List.getElem?_eq_getElem h]
  rfl

theorem range?_add : range? bs start (start + size) = slice? bs start size := by
  have hiff : start ≤ start + size ∧ start + size ≤ bs.length ↔ start + size ≤ bs.length := by
    omega
  simp only [range?, slice?, hiff, Nat.add_sub_cancel_left]

theorem range_eq (hstart : start ≤ stop) (hstop : stop ≤ bs.length) :
    range bs start stop = value ((bs.drop start).take (stop - start)) := by
  rw [range, range?, if_pos ⟨hstart, hstop⟩]
  rfl

theorem range?_length (h : start ≤ bs.length) :
    range? bs start bs.length = some (bs.drop start) := by
  have hrest : (bs.drop start).length ≤ bs.length - start := Nat.le_of_eq List.length_drop
  rw [range?, if_pos ⟨h, Nat.le_refl _⟩, List.take_of_length_le hrest]

theorem range_length (h : start ≤ bs.length) :
    range bs start bs.length = value (bs.drop start) := by
  rw [range, range?_length h]
  rfl

theorem bytes_eq (h : start + size ≤ bs.length) :
    bytes bs start size = value ((bs.drop start).take size) := by
  induction size generalizing start with
  | zero => rfl
  | succ n ih =>
    rw [bytes, byte_eq (by omega), value_bind, ih (by omega), value_bind, pure_eq,
      List.drop_eq_getElem_cons (i := start) (by omega), List.take_succ_cons]

theorem toNat_ne {b c : UInt8} (h : b ≠ c) : b.toNat ≠ c.toNat := fun heq ↦
  h (UInt8.toNat_inj.1 heq)

theorem uint?_one_eq (bs : List UInt8) (i : Nat) :
    uint? bs i 1 = (byte? bs i).map UInt8.toNat := by
  cases hb : byte? bs i with
  | some b => exact uint?_one hb
  | none =>
    rw [Option.map_none, Option.eq_none_iff_forall_ne_some]
    intro n hn
    obtain ⟨b, hb', -⟩ := byte_of_uint?_one hn
    exact absurd (hb.symm.trans hb') (by simp)

theorem uint_eq (h : start + size < 0x10000000000000000) :
    uint bs start size = ofOption (uint? bs start size) := by
  rw [uint, add_eq h, value_bind, range?_add, uint?, Option.map_eq_bind]
  refine ofOption_bind fun part hpart ↦ ?_
  obtain ⟨rfl, -⟩ := length_of_slice? hpart
  rw [bytes_eq (by omega), value_bind, List.drop_zero, List.take_length]
  rfl

theorem int_eq (h : start + size < 0x10000000000000000) :
    int bs start size = ofOption (int? bs start size) := by
  rw [int, uint_eq h, int?, Option.map_eq_bind]
  exact ofOption_bind fun _ _ ↦ rfl

theorem uintLittle_eq (h : start + size < 0x10000000000000000) :
    uintLittle bs start size = ofOption (uintLittle? bs start size) := by
  rw [uintLittle, add_eq h, value_bind, range?_add, uintLittle?, Option.map_eq_bind]
  exact ofOption_bind fun _ _ ↦ rfl

theorem drop_min : bs.drop (min start bs.length) = bs.drop start := by
  rcases Nat.le_total start bs.length with hle | hle
  · rw [Nat.min_eq_left hle]
  · rw [Nat.min_eq_right hle, List.drop_eq_nil_of_le hle, List.drop_length]

/-- The range of a window. -/
theorem range_window (hbs : Captured bs) :
    range bs (min start bs.length) (min (addCapped start size) bs.length) =
      value (window bs start size) := by
  have hlength := hbs.length_lt
  have hcap := addCapped_eq start size
  rw [range_eq (by omega) (by omega), drop_min, window]
  congr 1
  rw [List.take_eq_take_iff, List.length_drop]
  omega

theorem getData_eq (hbs : Captured bs) : getData bs start size = value (window bs start size) :=
  range_window hbs

theorem window_length : window bs start bs.length = bs.drop start :=
  List.take_of_length_le (by rw [List.length_drop]; omega)

/-- What stands before a byte ends where a search finds it. -/
theorem takeWhile_ne (b : UInt8) (bs : List UInt8) :
    bs.takeWhile (· ≠ b) = bs.take (bs.findIdx (· = b)) := by
  simp [List.takeWhile_eq_take_findIdx_not]

theorem dropWhile_ne (b : UInt8) (bs : List UInt8) :
    bs.dropWhile (· ≠ b) = bs.drop (bs.findIdx (· = b)) := by
  simp [List.dropWhile_eq_drop_findIdx_not]

theorem length_window (bs : List UInt8) (start size : Nat) :
    (window bs start size).length = min size (bs.length - start) := by
  rw [window, List.length_take, List.length_drop]

theorem untilBlankWithin_eq {m : Message} (hm : Captured m.data) :
    untilBlankWithin m.data start limit = value (m.untilBlankWithin start limit) := by
  have hlength := hm.length_lt
  have hcap := addCapped_eq start limit
  have hpart := length_window m.data start limit
  have hindex : (window m.data start limit).findIdx (· = 0x20) =
      ((window m.data start limit).findIdx? (· = 0x20)).getD (window m.data start limit).length :=
    List.findIdx_eq_getD_findIdx?
  simp only [untilBlankWithin, Message.untilBlankWithin, takeWhile_ne]
  rw [range_window hm, value_bind]
  cases hpos : (window m.data start limit).findIdx? (· = 0x20) with
  | none =>
    have hstop : min (addCapped start limit) m.data.length = min (start + limit) m.data.length := by
      omega
    rw [hpos] at hindex
    rw [hindex, Option.getD_none, List.take_length, if_neg (Nat.lt_irrefl _), hstop]
    rfl
  | some pos =>
    obtain ⟨hlt, -⟩ := List.findIdx?_eq_some_iff_findIdx_eq.1 hpos
    have hword : (m.data.drop (min start m.data.length)).take pos =
        (window m.data start limit).take pos := by
      rw [drop_min, window, List.take_take, Nat.min_eq_left (by omega)]
    have htaken : ((window m.data start limit).take pos).length = pos := by
      rw [List.length_take]
      omega
    rw [hpos] at hindex
    simp only
    rw [add_eq (by omega), value_bind, add_eq (by omega), value_bind,
      range_eq (by omega) (by omega), Nat.add_sub_cancel_left, hword, hindex, Option.getD_some,
      htaken, if_pos hlt]
    rfl

/-- Without a limit, the rest of the capture is looked at. -/
theorem untilBlank_eq {m : Message} (hm : Captured m.data) :
    untilBlank m.data start = value (m.untilBlank start) := by
  have hlength := hm.length_lt
  have hmax : maxPosition = 0xFFFFFFFFFFFFFFFF := rfl
  have hwindow : window m.data start maxPosition = window m.data start m.data.length := by
    rw [window, window, List.take_eq_take_iff, List.length_drop]
    omega
  have hstop : min (start + maxPosition) m.data.length =
      min (start + m.data.length) m.data.length := by
    omega
  rw [untilBlank, untilBlankWithin_eq hm, Message.untilBlank]
  simp only [Message.untilBlankWithin, hwindow, hstop]

end Guarded

end SocketWatch.Wire
