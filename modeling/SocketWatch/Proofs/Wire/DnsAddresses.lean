import SocketWatch.Proofs.Wire.Capture
import SocketWatch.Proofs.Wire.DnsFraming
/-!
# Addresses of what was captured

The answers of a message stand one behind the other, and each says how long its data is, so a length
that is not true leads the reader to a place where no answer stands. A cut does not: a number that
is read from a capture is the same in every longer one, and the first that is not there ends the
list. Of a shorter capture fewer addresses are read, but none that is not read of a longer one
(`prefix_addresses`). This holds for any bytes.

Answers that were written are read back, each as its address or as nothing, whatever its class and
its data are (`addresses_write`). A part of one is read as nothing (`addresses_take_write`): if its
length is cut off, this ends the list, and else either the address is cut off or the next answer
would stand behind the end. So a cut among answers leaves the addresses of those that were captured
whole (`addresses_take`).
-/

namespace SocketWatch.Wire.Dns

variable {data : List UInt8} {count start cut : Nat}

/-! ### Any bytes -/

/-- Where the numbers of an answer are not all there, the list ends. -/
theorem addresses_of_length_lt (h : data.length < start + 12) :
    addresses data count start = [] := by
  have hsize : uint? data (start + 10) 2 = none := uint?_of_length_lt h
  cases count with
  | zero => rfl
  | succ n =>
    rw [addresses, hsize]
    split
    · contradiction
    · rfl

/-- Positions may be taken from any place in the capture. -/
theorem addresses_drop (data : List UInt8) (count start : Nat) :
    addresses data count start = addresses (data.drop start) count 0 := by
  rcases Nat.le_total start data.length with hle | hge
  · have hbehind := addresses_append (data.take start) (data.drop start) 0 count
    rwa [List.take_append_drop, List.length_take, Nat.min_eq_left hle] at hbehind
  · have hend : data.length < start + 12 := by omega
    rw [List.drop_eq_nil_of_le hge, addresses_of_length_lt hend, addresses_of_length_lt (by decide)]

/-- **What is read of a capture is a beginning of what is read of every longer one.** -/
theorem prefix_addresses (bs more : List UInt8) (count start : Nat) :
    addresses bs count start <+: addresses (bs ++ more) count start := by
  -- by induction on the answers that are left: the position is the same in both captures as long as
  -- the shorter one has the numbers it comes from
  induction count generalizing start with
  | zero => exact List.prefix_refl []
  | succ n ih =>
    rw [addresses]
    split
    · rename_i kind size hkind hsize
      rw [addresses, uint?_append_of_eq_some hkind, uint?_append_of_eq_some hsize]
      simp only
      split
      · split
        · rename_i ip hip
          rw [uint?_append_of_eq_some hip]
          exact List.cons_prefix_cons.2 ⟨rfl, ih _⟩
        · exact List.nil_prefix
      · exact ih _
    · exact List.nil_prefix

/-! ### Answers -/

/-- An answer with a name of two bytes. -/
structure Answer where
  /-- The bytes of the name. -/
  name : Vector UInt8 2
  /-- The type. -/
  kind : UInt16
  /-- The class. -/
  netClass : UInt16
  /-- For how many seconds it may be kept. -/
  ttl : UInt32
  /-- What it tells. -/
  data : List UInt8
  /-- The length of the data can be written. -/
  length_data : data.length < 0x10000

namespace Answer

variable (a : Answer)

/-- The numbers of an answer, each with how many bytes it has. -/
def numbers : List (Nat × Nat) :=
  [(2, a.kind.toNat), (2, a.netClass.toNat), (4, a.ttl.toNat), (2, a.data.length)]

/-- What stands in front of the data: the name and the numbers. -/
def opening : List UInt8 := a.name.toList ++ writeUints a.numbers

/-- An answer on the wire. -/
def write : List UInt8 := a.opening ++ a.data

/-- The address of an answer of type A with data of four bytes. -/
def address? : Option Ipv4 :=
  if a.kind = 1 then match a.data with
    | [w, x, y, z] => some (.ofOctets w.toNat x.toNat y.toNat z.toNat)
    | _ => none
  else none

theorem length_opening : a.opening.length = 12 := by
  simp [opening, numbers, writeUints]

theorem length_write : a.write.length = 12 + a.data.length := by
  rw [write, List.length_append, length_opening]

theorem uint?_kind (rest : List UInt8) : uint? (a.opening ++ rest) 2 2 = some a.kind.toNat := by
  rw [opening, List.append_assoc]
  exact (uint?_behind _ 0 2 a.name.length_toList).trans
    (uint?_writeUints (show a.numbers[0]? = _ from rfl) a.kind.toNat_lt rest)

theorem uint?_length (rest : List UInt8) : uint? (a.opening ++ rest) 10 2 = some a.data.length := by
  rw [opening, List.append_assoc]
  exact (uint?_behind _ 8 2 a.name.length_toList).trans
    (uint?_writeUints (show a.numbers[3]? = _ from rfl) a.length_data rest)

/-- With the numbers of an answer captured, what is left is to read the data, if it is an address,
and then what stands behind the data. -/
theorem addresses_opening (rest : List UInt8) (n : Nat) :
    addresses (a.opening ++ rest) (n + 1) 0 =
      if a.kind = 1 ∧ a.data.length = 4 then
        (uint? rest 0 4).elim [] fun ip ↦
          ⟨UInt32.ofNat ip⟩ :: addresses (rest.drop a.data.length) n 0
      else addresses (rest.drop a.data.length) n 0 := by
  have hip : uint? (a.opening ++ rest) 12 4 = uint? rest 0 4 :=
    uint?_behind rest 0 4 a.length_opening
  have hrest : addresses (a.opening ++ rest) n (12 + a.data.length) =
      addresses (rest.drop a.data.length) n 0 := by
    rw [addresses_drop, ← a.length_opening, List.drop_length_add_append]
  have hkind : a.kind.toNat = 1 ↔ a.kind = 1 := UInt16.toNat_inj (b := 1)
  simp only [addresses, Nat.zero_add, uint?_kind, uint?_length, hip, hrest, Bool.and_eq_true,
    decide_eq_true_eq, hkind]
  split
  · cases uint? rest 0 4 <;> rfl
  · rfl

/-- The address of four bytes. -/
theorem address?_of_length (hkind : a.kind = 1) (hlength : a.data.length = 4) :
    a.address? = some ⟨UInt32.ofNat (bigEndian a.data)⟩ := by
  obtain ⟨w, x, y, z, hdata⟩ := List.length_eq_four.1 hlength
  rw [address?, if_pos hkind, hdata]
  simp [bigEndian, Ipv4.ofOctets]

theorem address?_eq_none (h : ¬ (a.kind = 1 ∧ a.data.length = 4)) : a.address? = none := by
  rw [address?]
  split
  · rename_i hkind
    split
    · rename_i w x y z hdata
      exact absurd ⟨hkind, by rw [hdata]; rfl⟩ h
    · rfl
  · rfl

/-- **An answer is read**: its address, if it has one, stands in front of those of the answers
behind it. -/
theorem addresses_write (rest : List UInt8) (n : Nat) :
    addresses (a.write ++ rest) (n + 1) 0 = a.address?.toList ++ addresses rest n 0 := by
  rw [write, List.append_assoc, addresses_opening, List.drop_left]
  split
  · rename_i h
    have hip : uint? (a.data ++ rest) 0 4 = some (bigEndian a.data) := by
      rw [uint?, ← h.2, slice?_zero_append, Option.map_some]
    rw [hip, address?_of_length a h.1 h.2]
    rfl
  · rename_i h
    rw [address?_eq_none a h]
    rfl

/-- **A part of an answer is read as nothing.** -/
theorem addresses_take_write (h : cut < a.write.length) (n : Nat) :
    addresses (a.write.take cut) n 0 = [] := by
  rw [length_write] at h
  rcases Nat.lt_or_ge cut 12 with hlt | hge
  · exact addresses_of_length_lt (by rw [List.length_take]; omega)
  · obtain ⟨k, rfl⟩ := Nat.exists_eq_add_of_le hge
    have hdata : k < a.data.length := by omega
    have htake : a.write.take (12 + k) = a.opening ++ a.data.take k := by
      rw [write, ← a.length_opening, List.take_length_add_append]
    have hrest : (a.data.take k).drop a.data.length = [] :=
      List.drop_eq_nil_of_le (List.length_take_le' k a.data)
    cases n with
    | zero => rfl
    | succ n =>
      rw [htake, addresses_opening, hrest, addresses_of_length_lt (by decide)]
      split
      · rename_i hfour
        rw [uint?_of_length_lt (by rw [List.length_take]; omega)]
        rfl
      · rfl

end Answer

/-- **A cut among answers leaves the addresses of those that were captured whole.** -/
theorem addresses_take (answers : List Answer) (rest : List UInt8) (cut : Nat) :
    addresses ((answers.flatMap Answer.write ++ rest).take cut) answers.length 0 =
      (captured Answer.write cut answers).filterMap Answer.address? := by
  induction answers generalizing cut with
  | nil => rfl
  | cons a answers ih =>
    rw [captured, List.flatMap_cons, List.append_assoc, List.length_cons]
    split
    · rename_i hfits
      rw [List.take_append, List.take_of_length_le hfits, Answer.addresses_write, ih]
      cases haddress : a.address? with
      | none => rw [List.filterMap_cons_none haddress]; rfl
      | some ip => rw [List.filterMap_cons_some haddress]; rfl
    · rename_i hcut
      have hlt : cut < a.write.length := Nat.not_le.1 hcut
      rw [List.take_append_of_le_length hlt.le, a.addresses_take_write hlt]
      rfl

/-- **The addresses of a response survive a cut.** Whatever the bytes are, wherever reading starts
and however many answers are said to follow, what is read of a cut capture is a beginning of what is
read of the whole. Where answers were written, with names of two bytes and whatever types, classes,
times and data, what is read are exactly the addresses of those of type A with data of four bytes,
in order, and of a cut capture exactly those of the answers that it has whole. -/
theorem addresses_of_capture (data : List UInt8) (start : Nat) :
    (∀ cut count, addresses (data.take cut) count start <+: addresses data count start) ∧
    ∀ answers : List Answer, answers.flatMap Answer.write <+: data.drop start →
      addresses data answers.length start = answers.filterMap Answer.address? ∧
      ∀ cut, addresses (data.take cut) answers.length start =
        (captured Answer.write (cut - start) answers).filterMap Answer.address? := by
  refine ⟨fun cut count ↦ ?_, ?_⟩
  · have hcut := prefix_addresses (data.take cut) (data.drop cut) count start
    rwa [List.take_append_drop] at hcut
  · rintro answers ⟨rest, hrest⟩
    constructor
    · have hwhole : (answers.flatMap Answer.write).length ≤ (data.drop start).length := by
        rw [← hrest, List.length_append]
        exact Nat.le_add_right _ _
      have hread := addresses_take answers rest (data.drop start).length
      rwa [hrest, List.take_length, captured_eq_self _ hwhole, ← addresses_drop] at hread
    · intro cut
      rw [addresses_drop, List.drop_take, ← hrest, addresses_take]

/-- Two addresses with an alias between them, and data of a wrong length behind. One capture ends
within the second address. The other goes on with more answers, which are read if as many are said
to follow. -/
theorem addresses_of_capture_mixed :
    let name : Vector UInt8 2 := #v[0xC0, 12]
    let answers : List Answer := [
      ⟨name, 1, 1, 60, [93, 184, 216, 34], by decide⟩,
      ⟨name, 5, 1, 60, [1, 0x61, 0], by decide⟩,
      ⟨#v[0, 0], 1, 3, 0xFFFFFFFF, [10, 0, 0, 7], by decide⟩,
      ⟨name, 1, 1, 60, [9, 9, 9, 9, 9], by decide⟩]
    let data := [0xAB, 0xCD] ++ (answers.flatMap Answer.write ++ answers.flatMap Answer.write)
    answers.flatMap Answer.write <+: data.drop 2 ∧
      addresses data 4 2 = [.ofOctets 93 184 216 34, .ofOctets 10 0 0 7] ∧
      addresses (data.take 48) 4 2 = [.ofOctets 93 184 216 34] ∧
      addresses (data.take 90) 9 2 <+: addresses data 9 2 := by
  intro name answers data
  have hthere : answers.flatMap Answer.write <+: data.drop 2 := List.prefix_append _ _
  have hcaptured : (captured Answer.write (48 - 2) answers).filterMap Answer.address? =
      [.ofOctets 93 184 216 34] := by decide
  obtain ⟨hany, hwritten⟩ := addresses_of_capture data 2
  obtain ⟨hwhole, hcut⟩ := hwritten answers hthere
  exact ⟨hthere, hwhole, (hcut 48).trans hcaptured, hany 90 9⟩

end SocketWatch.Wire.Dns
