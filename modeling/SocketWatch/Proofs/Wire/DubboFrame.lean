import Mathlib.Data.List.TakeWhile
import SocketWatch.Proofs.Fields
import SocketWatch.Proofs.Text.Ascii
import SocketWatch.Proofs.Wire.Guarded.Dubbo
/-!
# Calls, written and captured

The body of a call begins with four texts, each of which says where it ends: by a length in front in
Hessian 2, and by quotes in JSON. What is read of a capture is as much of a text as was captured, and
what is left behind it is what was captured of the bytes that follow (`text_take`). This holds for
every cut, also for one within the length or between the quote and the line feed behind it, and so
the next text is read from where it begins or from nothing. Of the four texts, those in front of the
cut are read whole, one may be a beginning, and those behind the cut are empty: a service of which
only a part was captured never stands before a method (`key_of_capture`).
-/

namespace SocketWatch.Wire.Dubbo

namespace Serializer

variable {s : Serializer} {t : String} {bs : List UInt8} {n cut : Nat}

/-! ### Texts -/

/-- The number of a serialization. -/
def id : Serializer → UInt8
  | .hessian2 => 2
  | .fastJson => 6

/-- What stands in front of a text of so many bytes. In Hessian 2 this is its length, in one byte
below 32 and else in two, of which the first is from `0x30` to `0x33`. -/
def opening : Serializer → Nat → List UInt8
  | .hessian2, n =>
    if n < 32 then [UInt8.ofNat n] else [UInt8.ofNat (0x30 + n / 256), UInt8.ofNat n]
  | .fastJson, _ => [0x22]

/-- What stands behind a text: a quote and a line feed in JSON. -/
def closing : Serializer → List UInt8
  | .hessian2 => []
  | .fastJson => [0x22, 0x0A]

/-- An ASCII text as it is written. -/
def write (s : Serializer) (t : String) : List UInt8 :=
  s.opening (Ascii.bytes t).length ++ (Ascii.bytes t ++ s.closing)

/-- The ASCII texts that can be written: those with a length of ten bits in Hessian 2, and those
without a quote in JSON. -/
def CanWrite : Serializer → String → Prop
  | .hessian2, t => Ascii.IsText t ∧ (Ascii.bytes t).length < 1024
  | .fastJson, t => Ascii.IsText t ∧ '\x22' ∉ t.toList

instance (s : Serializer) (t : String) : Decidable (s.CanWrite t) :=
  match s with
  | .hessian2 => inferInstanceAs (Decidable (_ ∧ _))
  | .fastJson => inferInstanceAs (Decidable (_ ∧ _))

theorem CanWrite.isText (h : s.CanWrite t) : Ascii.IsText t := by
  cases s <;> exact h.1

/-- A length in Hessian 2 tells how many of the bytes behind it are the text. -/
theorem text_hessian2_opening (h : n < 1024) (bs : List UInt8) :
    text .hessian2 (opening .hessian2 n ++ bs) = (bs.take n, bs.drop n) := by
  rw [opening]
  split
  · rename_i hshort
    have hn : (UInt8.ofNat n).toNat = n :=
      UInt8.toNat_ofNat_of_lt' (Nat.lt_trans hshort (by decide))
    have hlow : ¬ 0x30 ≤ UInt8.ofNat n := by
      rw [UInt8.le_iff_toNat_le, hn]
      show ¬ 0x30 ≤ n
      omega
    rw [List.singleton_append, text_hessian2, if_neg (by simp [hlow]), hn]
  · have hbyte : 0x30 + n / 256 < 256 := by omega
    have htag : (UInt8.ofNat (0x30 + n / 256)).toNat = 0x30 + n / 256 :=
      UInt8.toNat_ofNat_of_lt' hbyte
    have hlong : (0x30 ≤ UInt8.ofNat (0x30 + n / 256) && UInt8.ofNat (0x30 + n / 256) ≤ 0x33) =
        true := by
      rw [Bool.and_eq_true, decide_eq_true_eq, decide_eq_true_eq, UInt8.le_iff_toNat_le,
        UInt8.le_iff_toNat_le, htag]
      exact ⟨Nat.le_add_right 0x30 _, show 0x30 + n / 256 ≤ 0x33 by omega⟩
    have hsize : (0x30 + n / 256 - 0x30) * 256 + (UInt8.ofNat n).toNat = n := by
      rw [UInt8.toNat_ofNat']
      omega
    rw [List.cons_append, text_hessian2, if_pos hlong]
    simp only [List.singleton_append, htag, hsize]

/-- A text of JSON goes on to the next quote, and the line feed behind that belongs to it. -/
theorem text_fastJson_opening (h : ∀ b ∈ bs, b ≠ 0x22) (rest : List UInt8) (k : Nat) :
    text .fastJson (0x22 :: (bs ++ 0x22 :: 0x0A :: rest).take k) =
      (bs.take k, rest.take (k - (bs.length + 2))) := by
  have hquote (part : List UInt8) : text .fastJson (0x22 :: part) =
      (part.takeWhile (· ≠ 0x22), part.drop ((part.takeWhile (· ≠ 0x22)).length + 2)) := rfl
  rw [hquote]
  rcases Nat.lt_or_ge bs.length k with hlt | hge
  · obtain ⟨j, rfl⟩ := Nat.exists_eq_add_of_lt hlt
    have htake : (bs ++ 0x22 :: 0x0A :: rest).take (bs.length + j + 1) =
        bs ++ 0x22 :: (0x0A :: rest).take j := by
      rw [Nat.add_assoc, List.take_length_add_append, List.take_succ_cons]
    have hvalue : (bs ++ 0x22 :: (0x0A :: rest).take j).takeWhile (· ≠ 0x22) = bs := by
      rw [List.takeWhile_append_of_pos (by simpa using h), List.takeWhile_cons_of_neg (by decide),
        List.append_nil]
    rw [htake, hvalue, List.drop_length_add_append, List.take_of_length_le (Nat.le_of_lt hlt)]
    cases j with
    | zero => simp
    | succ j =>
      have hleft : bs.length + (j + 1) + 1 - (bs.length + 2) = j := by omega
      rw [List.take_succ_cons, List.drop_succ_cons, List.drop_succ_cons, List.drop_zero, hleft]
  · have hvalue : (bs.take k).takeWhile (· ≠ 0x22) = bs.take k :=
      List.takeWhile_eq_self_iff.2 fun b hb ↦ decide_eq_true (h b (List.mem_of_mem_take hb))
    rw [List.take_append_of_le_length hge, hvalue, List.drop_eq_nil_of_le (Nat.le_add_right _ 2),
      Nat.sub_eq_zero_of_le (Nat.le_add_right_of_le hge), List.take_zero]

/-- Where the cut is not behind the bytes in front of a text, there is no text. -/
theorem text_take_opening (h : cut < (s.opening n).length) :
    s.text ((s.opening n).take cut) = ([], []) := by
  have htag (tag : UInt8) : text .hessian2 [tag] = ([], []) := by
    rw [text_hessian2]
    split <;> simp
  have hlength : (s.opening n).length ≤ 2 := by
    cases s with
    | hessian2 => simp only [opening]; split <;> simp
    | fastJson => simp [opening]
  obtain _ | _ | cut := cut
  · cases s <;> rfl
  · cases s with
    | hessian2 =>
      obtain ⟨tag, rest, hcons⟩ := List.exists_cons_of_length_pos (Nat.zero_lt_of_lt h)
      rw [hcons]
      exact htag tag
    | fastJson => exact absurd h (by simp [opening])
  · omega

/-- **What is read of a capture** is as much of a text as was captured, and what is left is what was
captured of the bytes behind it. -/
theorem text_take (h : s.CanWrite t) (rest : List UInt8) (cut : Nat) :
    s.text ((s.write t ++ rest).take cut) =
      ((Ascii.bytes t).take (cut - (s.opening (Ascii.bytes t).length).length),
        rest.take (cut - (s.write t).length)) := by
  have hcut : s.write t ++ rest =
      s.opening (Ascii.bytes t).length ++ (Ascii.bytes t ++ (s.closing ++ rest)) := by
    simp only [write, List.append_assoc]
  have hlength : (s.write t).length = (s.opening (Ascii.bytes t).length).length +
      ((Ascii.bytes t).length + s.closing.length) := by
    simp only [write, List.length_append]
  rw [hcut, hlength]
  rcases Nat.lt_or_ge cut (s.opening (Ascii.bytes t).length).length with hlt | hge
  · rw [List.take_append_of_le_length (Nat.le_of_lt hlt), text_take_opening hlt,
      Nat.sub_eq_zero_of_le (Nat.le_of_lt hlt), Nat.sub_eq_zero_of_le (by omega), List.take_zero,
      List.take_zero]
  · obtain ⟨k, rfl⟩ := Nat.exists_eq_add_of_le hge
    rw [List.take_length_add_append, Nat.add_sub_add_left, Nat.add_sub_cancel_left]
    cases s with
    | hessian2 =>
      rw [text_hessian2_opening h.2, closing, List.nil_append, List.take_take, Nat.min_comm,
        ← List.take_take, List.take_left, List.drop_take, List.drop_left]
      rfl
    | fastJson =>
      refine text_fastJson_opening ?_ rest k
      rintro b hb rfl
      exact h.2 (Ascii.mem_toList_of_mem_bytes h.1 hb)

end Serializer

/-! ### Calls -/

/-- A call that waits for its response, with texts that can be written. -/
structure Call where
  /-- The serialization of the texts. -/
  serializer : Serializer
  /-- The status, which counts in responses only. -/
  status : UInt8
  /-- The number of the request. -/
  id : UInt64
  /-- The length of the body. -/
  bodyLength : UInt32
  /-- The version of the protocol. -/
  version : String
  /-- The service that is called. -/
  service : String
  /-- The version of the service. -/
  serviceVersion : String
  /-- The method that is called. -/
  method : String
  /-- The texts can be written. -/
  canWrite : ∀ t ∈ [version, service, serviceVersion, method], serializer.CanWrite t

namespace Call

open Serializer

variable (c : Call)

/-- The flags of a request that is no event and waits for its response. -/
def flags : UInt8 := 0xC0 ||| c.serializer.id

/-- The header of a frame. -/
def header : List UInt8 :=
  magic ++ [c.flags, c.status] ++ (writeUint 8 c.id.toNat ++ writeUint 4 c.bodyLength.toNat)

/-- The texts of a call, one after another. -/
def texts : List UInt8 :=
  [c.version, c.service, c.serviceVersion, c.method].flatMap c.serializer.write

/-- A frame up to the arguments of the call. -/
def write : List UInt8 := c.header ++ c.texts

theorem length_header : c.header.length = headerLength := by
  simp [header, magic, headerLength]

theorem ofByte_flags : Flags.ofByte c.flags = {
    isRequest := true, isTwoWay := true, isEvent := false
    serialization := c.serializer.id.toNat } := by
  rw [flags]
  cases c.serializer <;> decide

/-- What is read of a frame whose header was captured. -/
theorem request?_header (m : Message) (bs : List UInt8) :
    request? { m with data := c.header ++ bs } =
      some (({ m with data := c.header ++ bs }.seek headerLength).putText Label.contentKey
        (Utf8.lossy (call c.serializer bs).1 ++ "#" ++ Utf8.lossy (call c.serializer bs).2)) := by
  have hframe : frame? (c.header ++ bs) = some (.ofByte c.flags, c.status, bs) := by
    have hmagic : (c.header ++ bs).take 2 = magic := rfl
    have hbody : (c.header ++ bs).drop headerLength = bs := List.drop_left' c.length_header
    rw [frame?, if_neg (by simp [hmagic, length_header]), hbody]
    rfl
  have hkey : contentKey? (.ofByte c.flags) bs = some
      (Utf8.lossy (call c.serializer bs).1 ++ "#" ++ Utf8.lossy (call c.serializer bs).2) := by
    rw [contentKey?, ofByte_flags]
    cases c.serializer <;> rfl
  simp only [request?, hframe, hkey, Option.bind_eq_bind, Option.bind_some]

/-- How many bytes stand in front of the text of the service. -/
def serviceStart : Nat :=
  (c.serializer.write c.version).length +
    (c.serializer.opening (Ascii.bytes c.service).length).length

/-- How many bytes stand in front of the text of the method. -/
def methodStart : Nat :=
  (c.serializer.write c.version).length + (c.serializer.write c.service).length +
    (c.serializer.write c.serviceVersion).length +
    (c.serializer.opening (Ascii.bytes c.method).length).length

theorem serviceStart_add_length_le :
    c.serviceStart + (Ascii.bytes c.service).length ≤ c.methodStart := by
  simp only [serviceStart, methodStart, Serializer.write, List.length_append]
  omega

theorem methodStart_add_length_le :
    c.methodStart + (Ascii.bytes c.method).length ≤ c.texts.length := by
  simp only [methodStart, texts, List.flatMap_cons, List.flatMap_nil, Serializer.write,
    List.length_append]
  omega

/-- What is read of the texts of a call. -/
theorem call_take (rest : List UInt8) (cut : Nat) :
    call c.serializer ((c.texts ++ rest).take cut) =
      ((Ascii.bytes c.service).take (cut - c.serviceStart),
        (Ascii.bytes c.method).take (cut - c.methodStart)) := by
  have hcan := c.canWrite
  simp only [List.forall_mem_cons] at hcan
  obtain ⟨hversion, hservice, hversion', hmethod, -⟩ := hcan
  simp only [call, texts, List.flatMap_cons, List.flatMap_nil, List.append_nil, List.append_assoc,
    text_take hversion, text_take hservice, text_take hversion', text_take hmethod, Nat.sub_sub]
  rfl

/-- What is read of a capture whose header is whole. -/
theorem exists_request?_take (rest : List UInt8) (m : Message) {cut : Nat}
    (hcut : headerLength ≤ cut) :
    ∃ m', request? { m with data := (c.write ++ rest).take cut } = some m' ∧
      m'.attributes.find? Label.contentKey = some (.text
        (Utf8.lossy ((Ascii.bytes c.service).take (cut - headerLength - c.serviceStart)) ++ "#" ++
          Utf8.lossy ((Ascii.bytes c.method).take (cut - headerLength - c.methodStart)))) := by
  have hcapture : (c.write ++ rest).take cut =
      c.header ++ (c.texts ++ rest).take (cut - headerLength) := by
    rw [write, List.append_assoc, List.take_append, length_header,
      List.take_of_length_le (c.length_header.trans_le hcut)]
  rw [hcapture]
  refine ⟨_, c.request?_header m _, ?_⟩
  rw [Message.putText, Attributes.find?_putText, if_pos rfl, call_take]

/-- **A call is known by its service and its method**, whatever follows the method in its frame. Cut
off anywhere behind the header the frame is read as well. Its key then has a beginning of the service
and a beginning of the method, and nothing of the method unless the service is whole. -/
theorem key_of_capture (rest : List UInt8) (m : Message) :
    (∃ m', request? { m with data := c.write ++ rest } = some m' ∧
      m'.attributes.find? Label.contentKey = some (.text (c.service ++ "#" ++ c.method))) ∧
    ∀ cut, headerLength ≤ cut →
      ∃ m', request? { m with data := (c.write ++ rest).take cut } = some m' ∧
        ∃ service method, m'.attributes.find? Label.contentKey =
            some (.text (service ++ "#" ++ method)) ∧
          service.toList <+: c.service.toList ∧ method.toList <+: c.method.toList ∧
          (method ≠ "" → service = c.service) := by
  have hservice : Ascii.IsText c.service := (c.canWrite _ (by simp)).isText
  have hmethod : Ascii.IsText c.method := (c.canWrite _ (by simp)).isText
  have horder := c.serviceStart_add_length_le
  constructor
  · have hlength : headerLength + c.texts.length ≤ (c.write ++ rest).length := by
      rw [write, List.length_append, List.length_append, length_header]
      exact Nat.le_add_right _ _
    have hend := c.methodStart_add_length_le
    obtain ⟨m', hread, hkey⟩ := c.exists_request?_take rest m (Nat.le_of_add_right_le hlength)
    rw [List.take_length] at hread
    rw [List.take_of_length_le (by omega), List.take_of_length_le (by omega),
      Ascii.lossy_bytes hservice, Ascii.lossy_bytes hmethod] at hkey
    exact ⟨m', hread, hkey⟩
  · intro cut hcut
    obtain ⟨m', hread, hkey⟩ := c.exists_request?_take rest m hcut
    refine ⟨m', hread, _, _, hkey, Ascii.toList_lossy_of_prefix hservice (List.take_prefix _ _),
      Ascii.toList_lossy_of_prefix hmethod (List.take_prefix _ _), fun hne ↦ ?_⟩
    have hbegun : cut - headerLength - c.methodStart ≠ 0 := fun hzero ↦
      hne (by rw [hzero, List.take_zero, Utf8.lossy_nil])
    rw [List.take_of_length_le (by omega), Ascii.lossy_bytes hservice]

/-- A service with a length of two bytes. One capture ends between these two, and one within the
method. -/
theorem key_of_capture_within_method :
    let c : Call := {
      serializer := .hessian2, status := 0, id := 7, bodyLength := 100
      version := "2.0.2", service := "org.demo.remote.GreetingServiceFacade"
      serviceVersion := "0.0.0", method := "sayHello"
      canWrite := by decide +kernel }
    let frame := c.write ++ [0x90]
    headerLength ≤ 23 ∧ headerLength ≤ 71 ∧
      (∃ m', request? { data := frame } = some m' ∧ m'.attributes.find? Label.contentKey =
        some (.text "org.demo.remote.GreetingServiceFacade#sayHello")) ∧
      (∃ m', request? { data := frame.take 23 } = some m' ∧
        m'.attributes.find? Label.contentKey = some (.text "#")) ∧
      ∃ m', request? { data := frame.take 71 } = some m' ∧
        m'.attributes.find? Label.contentKey =
          some (.text "org.demo.remote.GreetingServiceFacade#say") := by
  intro c frame
  obtain ⟨hwhole, hcapture⟩ := key_of_capture c [0x90] { data := [] }
  obtain ⟨m₁, hread₁, -⟩ := hcapture 23 (by decide)
  obtain ⟨m₂, hread₂, -⟩ := hcapture 71 (by decide)
  have hkey₁ : (request? { data := frame.take 23 }).map (·.attributes.find? Label.contentKey) =
      some (some (.text "#")) := by decide +kernel
  have hkey₂ : (request? { data := frame.take 71 }).map (·.attributes.find? Label.contentKey) =
      some (some (.text "org.demo.remote.GreetingServiceFacade#say")) := by decide +kernel
  rw [hread₁] at hkey₁
  rw [hread₂] at hkey₂
  exact ⟨by decide, by decide, hwhole, ⟨m₁, hread₁, Option.some.inj hkey₁⟩, m₂, hread₂,
    Option.some.inj hkey₂⟩

end Call

end SocketWatch.Wire.Dubbo
