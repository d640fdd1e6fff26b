import SocketWatch.Proofs.Wire.Guarded.Dns
/-!
# DNS behind a length

On TCP a DNS message stands behind two bytes that tell its length. The reader does not look at them,
and does not cut them off either: it reads at places that are two bytes further on. That this comes
to the same is a matter of every single place, because a message can be cut short anywhere, and its
names can lead anywhere with their pointers. A place that were counted from the beginning of the
capture and not from the base would be found in no message that is whole and uses no pointers.

So each step of the reader is shown to be indifferent to bytes in front, however many: it finds the
same, or refuses the same, and goes on at a place that is as much further on (`labels?_append`,
`questions?_append`, `addresses_append`). For names this goes by the number of pointers that may
still be followed, since a run of labels is read from what is left of the capture.

The position that is left behind moves by two for a query. It does not for an answer: the reader of
answers leaves it where it found it, on either transport (`framed_answer_in_place`).
-/

namespace SocketWatch.Wire

variable (front bs : List UInt8) (start size : Nat)

namespace Message

/-- The message behind bytes in front, on TCP. -/
def framed (m : Message) : Message := { m with data := front ++ m.data, transport := .tcp }

theorem length_framed_le (m : Message) (stop : Nat) :
    (m.framed front).data.length ≤ front.length + stop ↔ m.data.length ≤ stop := by
  rw [framed, List.length_append, Nat.add_le_add_iff_left]

theorem lt_length_framed (m : Message) (stop : Nat) :
    front.length + stop < (m.framed front).data.length ↔ stop < m.data.length := by
  rw [← Nat.not_le, length_framed_le, Nat.not_le]

/-- What stands in front has no part in whether there is an error. -/
theorem framed_protocolErrorIf (m : Message) (condition : Prop) [Decidable condition] :
    (m.framed front).protocolErrorIf condition = (m.protocolErrorIf condition).framed front := by
  unfold protocolErrorIf
  split <;> rfl

end Message

namespace Dns

theorem header?_append : header? (front ++ bs) (front.length + start) = header? bs start := by
  simp only [header?, Nat.add_assoc, uint?_append]

section

variable (base : Nat)

/-! ### Names -/

/-- **A name is the same behind bytes in front**, and ends as much further on. The induction is on
the pointers that may be followed, wherever they lead. -/
theorem labels?_append (hops : Nat) :
    labels? (front ++ bs) (front.length + base) hops (front.length + start) =
      (labels? bs base hops start).map fun name ↦ (name.1, front.length + name.2) := by
  induction hops generalizing start with
  | zero =>
    rw [labels?_run, labels?_run, List.drop_length_add_append, Option.map_bind]
    refine congrArg _ (funext ?_)
    rintro ⟨labels, ending, size⟩
    cases ending with
    | root => simp [afterRun?, Nat.add_assoc]
    | pointer target => rfl
  | succ hops ih =>
    rw [labels?_run, labels?_run, List.drop_length_add_append, Option.map_bind]
    refine congrArg _ (funext ?_)
    rintro ⟨labels, ending, size⟩
    cases ending with
    | root => simp [afterRun?, Nat.add_assoc]
    | pointer target =>
      simp [afterRun?, Nat.add_assoc, ih, Function.comp_def]

theorem name?_append :
    name? (front ++ bs) (front.length + base) (front.length + start) =
      (name? bs base start).map fun name ↦ (name.1, front.length + name.2) := by
  rw [name?, name?, labels?_append, Option.map_map, Option.map_map]
  rfl

/-! ### Sections -/

theorem questions?_append (n : Nat) :
    questions? (front ++ bs) (front.length + base) n (front.length + start) =
      (questions? bs base n start).map fun read ↦ (read.1, front.length + read.2) := by
  induction n generalizing start with
  | zero => rfl
  | succ n ih =>
    rw [questions?, questions?, name?_append]
    show Option.bind (Option.map _ _) _ = Option.map _ (Option.bind _ _)
    rw [Option.bind_map, Option.map_bind]
    refine congrArg _ (funext ?_)
    rintro ⟨name, stop⟩
    have hends : (front ++ bs).length ≤ front.length + stop ↔ bs.length ≤ stop := by
      rw [List.length_append]
      omega
    simp only [Function.comp_apply, hends]
    split
    · rfl
    · rw [Nat.add_assoc, ih]
      cases questions? bs base n (stop + 4) <;> rfl

theorem addresses_append (n : Nat) :
    addresses (front ++ bs) n (front.length + start) = addresses bs n start := by
  induction n generalizing start with
  | zero => rfl
  | succ n ih =>
    simp only [addresses, Nat.add_assoc, uint?_append, ih]

end

/-! ### Messages -/

variable {front} {m : Message}

theorem base_framed (hfront : front.length = 2) (hm : m.transport = .udp) :
    base (m.framed front) = front.length + base m := by
  rw [hfront, base, base, hm]
  rfl

/-- **A query is read behind the length as it is read without**, and the position behind it is as
much further on. -/
theorem request?_framed (hfront : front.length = 2) (hm : m.transport = .udp) :
    request? (m.framed front) =
      (request? m).map fun m' ↦ (m'.framed front).seek (m'.offset + front.length) := by
  rw [request?, request?]
  simp only [base_framed hfront hm, Nat.add_assoc, Message.length_framed_le]
  split
  · rfl
  · show Option.bind (header? (front ++ m.data) _) _ = Option.map _ (Option.bind _ _)
    rw [header?_append, Option.map_bind]
    refine congrArg _ (funext fun h ↦ ?_)
    simp only [Function.comp_apply]
    split
    · rfl
    · show Option.bind (questions? (front ++ m.data) _ _ _) _ = Option.map _ (Option.bind _ _)
      rw [questions?_append, Option.bind_map, Option.map_bind]
      refine congrArg _ (funext ?_)
      rintro ⟨domain, stop⟩
      rw [Function.comp_apply, Function.comp_apply, Nat.add_comm front.length]
      rfl

/-- **An answer is read behind the length as it is read without**, and the position stays. -/
theorem response?_framed (hfront : front.length = 2) (hm : m.transport = .udp) :
    response? (m.framed front) = (response? m).map (·.framed front) := by
  rw [response?, response?]
  simp only [base_framed hfront hm, Nat.add_assoc, Message.length_framed_le,
    Message.lt_length_framed]
  split
  · rfl
  · show Option.bind (header? (front ++ m.data) _) _ = Option.map _ (Option.bind _ _)
    rw [header?_append, Option.map_bind]
    refine congrArg _ (funext fun h ↦ ?_)
    simp only [Function.comp_apply]
    split
    · rfl
    · show Option.bind (questions? (front ++ m.data) _ _ _) _ = Option.map _ (Option.bind _ _)
      rw [questions?_append, Option.bind_map, Option.map_bind]
      refine congrArg _ (funext ?_)
      rintro ⟨domain, stop⟩
      have hips : addresses (m.framed front).data h.answers (front.length + stop) =
          addresses m.data h.answers stop := addresses_append front m.data stop h.answers
      simp only [Function.comp_apply, hips, Option.map_some]
      rw [← Message.framed_protocolErrorIf]
      split <;> rfl

/-- The reader of answers does not move the position. -/
theorem offset_of_response? {m' : Message} (hread : response? m = some m') :
    m'.offset = m.offset := by
  have herror (kept : Message) (condition : Prop) [Decidable condition] :
      (kept.protocolErrorIf condition).offset = kept.offset := by
    unfold Message.protocolErrorIf
    split <;> rfl
  unfold response? at hread
  simp only at hread
  split at hread
  · cases hread
  · obtain ⟨h, -, hread⟩ := Option.bind_eq_some_iff.1 hread
    split at hread
    · cases hread
    · obtain ⟨⟨domain, stop⟩, -, hread⟩ := Option.bind_eq_some_iff.1 hread
      cases hread
      rw [herror, Message.putInt, Message.putInt]
      dsimp only
      split <;> rfl

/-- **DNS on TCP is DNS on UDP behind two bytes**, whatever these are and whatever stands behind
them. A capture is accepted if it is without them, with the same attributes added to those that are
there. For a query the position behind it is two bytes further on; for an answer the position is
the beginning, with the two bytes and without. -/
theorem framed_read (first second : UInt8) (data : List UInt8) (attributes : Attributes) :
    let datagram : Message := { data, attributes, transport := .udp }
    let segment : Message := { data := first :: second :: data, attributes, transport := .tcp }
    (request? segment).map (fun m ↦ (m.attributes, m.offset)) =
        (request? datagram).map (fun m ↦ (m.attributes, m.offset + 2)) ∧
      (response? segment).map (fun m ↦ (m.attributes, m.offset)) =
        (response? datagram).map (fun m ↦ (m.attributes, m.offset)) ∧
      (response? datagram).map (fun m ↦ m.offset) = (response? datagram).map fun _ ↦ 0 := by
  intro datagram segment
  have hfront : [first, second].length = 2 := rfl
  have hdatagram : datagram.transport = .udp := rfl
  have hrequest : request? segment = _ := request?_framed hfront hdatagram
  have hresponse : response? segment = _ := response?_framed hfront hdatagram
  refine ⟨?_, ?_, Option.map_congr fun m hread ↦ offset_of_response? hread⟩
  · rw [hrequest, Option.map_map]
    rfl
  · rw [hresponse, Option.map_map]
    rfl

/-- The position behind an answer is not two bytes further on: it is the beginning either way. -/
theorem framed_answer_in_place :
    let data : List UInt8 :=
      [0, 11, 0x81, 0x80, 0, 1, 0, 0, 0, 0, 0, 0, 1, 0x61, 0, 0, 1, 0, 1]
    let datagram : Message := { data, transport := .udp }
    let segment : Message := { data := 0 :: 19 :: data, transport := .tcp }
    (response? segment).map (·.attributes) = (response? datagram).map (·.attributes) ∧
      (response? datagram).map (·.offset + 2) = some 2 ∧
      (response? segment).map (·.offset) = some 0 := by
  decide +kernel

end Dns

end SocketWatch.Wire
