import SocketWatch.Proofs.Wire.Capture
import SocketWatch.Proofs.Wire.Dns
import SocketWatch.Proofs.Wire.Guarded.Http
/-!
# Headers of what was captured

A message of HTTP is written as a start line, header lines and an empty line, and then the body. The
end of the headers is searched for in three ways: by the first empty line, by the last end of a line
where there is no empty one, and not at all where no line has an end. Which of them applies depends
on the cut, and also on the body where there are no headers, for then the empty line follows the
start line, and the first empty line that is found behind that one is somewhere in the body.

All of them come to the headers of the lines that were captured whole (`ofMessage_take`). Without
header lines the search may go wrong, and it does no harm: what is found begins with the end of a
line, and the headers end there (`headersOf_crlf`). With header lines it finds their end, since no
empty line is hidden in them. That takes a look at every place where two ends of lines could touch
(`not_infix_flatMap_writeLine`), for a line may end in a carriage return or begin with a line feed.
-/

namespace SocketWatch.Wire

namespace HeaderBlock

open Guarded (headersOf)

variable {start part body : List UInt8} {lines : List (List UInt8)}

/-! ### Lines -/

/-- A line as it is written, with its end. -/
def writeLine (line : List UInt8) : List UInt8 := line ++ crlf

/-- A message without a body: a start line, header lines and an empty line. -/
def writeMessage (start : List UInt8) (lines : List (List UInt8)) : List UInt8 :=
  writeLine start ++ lines.flatMap writeLine ++ crlf

/-- Header lines are not empty, and hold no end of a line. -/
def AreLines (lines : List (List UInt8)) : Prop := ∀ l ∈ lines, l ≠ [] ∧ ¬ crlf <:+: l

/-- A carriage return at the end does not make an end of a line. -/
theorem not_crlf_infix_concat {bs : List UInt8} (h : ¬ crlf <:+: bs) : ¬ crlf <:+: bs ++ [13] := by
  rw [List.infix_concat_iff, List.suffix_concat_iff]
  rintro ((hnil | ⟨t, ht, -⟩) | hoccurs)
  · cases hnil
  · have hlast := congrArg List.getLast? ht
    rw [List.getLast?_concat] at hlast
    cases hlast
  · exact h hoccurs

/-- A line that is cut off has no end. -/
theorem not_crlf_infix_of_prefix_writeLine {line : List UInt8} (hline : ¬ crlf <:+: line)
    (hpart : part <+: writeLine line) (hlength : part.length < (writeLine line).length) :
    ¬ crlf <:+: part := by
  have hreturn : writeLine line = line ++ [13] ++ [10] := by
    rw [writeLine, List.append_assoc]
    rfl
  have hbegins : part <+: line ++ [13] := by
    rw [hreturn] at hpart hlength
    refine List.prefix_of_prefix_length_le hpart (List.prefix_append _ _) ?_
    rw [List.length_append] at hlength
    exact Nat.le_of_lt_succ hlength
  exact fun hoccurs ↦ not_crlf_infix_concat hline (hoccurs.trans hbegins.isInfix)

/-- What begins with the end of a line begins with an empty line. -/
theorem eq_nil_of_prefix_writeLine {line rest : List UInt8} (hline : ¬ crlf <:+: line)
    (h : crlf <+: writeLine line ++ rest) : line = [] := by
  by_contra hne
  have hbegin : line ++ [13] <+: writeLine line ++ rest := by
    refine ⟨10 :: rest, ?_⟩
    simp [writeLine, crlf]
  have hshort : crlf.length ≤ (line ++ [13]).length := by
    have := List.length_pos_iff.2 hne
    rw [List.length_append]
    exact Nat.succ_le_succ this
  exact not_crlf_infix_concat hline (List.prefix_of_prefix_length_le h hbegin hshort).isInfix

/-- An empty line that is found behind the beginning of a line stands behind its end. -/
theorem of_infix_writeLine {line rest : List UInt8} (hline : ¬ crlf <:+: line)
    (h : crlf ++ crlf <:+: writeLine line ++ rest) :
    crlf <+: rest ∨ crlf ++ crlf <:+: rest := by
  induction line with
  | nil =>
    rw [writeLine, List.nil_append] at h
    rcases List.infix_cons_iff.1 h with hbegins | h
    · exact .inl ((List.prefix_append_right_inj crlf).1 hbegins)
    · rcases List.infix_cons_iff.1 h with hbegins | h
      · exact absurd (List.cons_prefix_cons.1 hbegins).1 (by decide)
      · exact .inr h
  | cons b line ih =>
    rcases List.infix_cons_iff.1 h with hbegins | h
    · cases eq_nil_of_prefix_writeLine hline ((List.prefix_append crlf crlf).trans hbegins)
    · exact ih (fun hoccurs ↦ hline (List.infix_cons hoccurs)) h

/-- **No empty line is hidden in lines that are not empty.** -/
theorem not_infix_flatMap_writeLine (hlines : AreLines lines) (hpart : ¬ crlf <:+: part) :
    ¬ crlf ++ crlf <:+: lines.flatMap writeLine ++ part := by
  induction lines with
  | nil => exact fun hoccurs ↦ hpart ((List.prefix_append crlf crlf).isInfix.trans hoccurs)
  | cons l ls ih =>
    have hls : AreLines ls := fun l' hl' ↦ hlines l' (List.mem_cons_of_mem l hl')
    intro hoccurs
    rw [List.flatMap_cons, List.append_assoc] at hoccurs
    rcases of_infix_writeLine (hlines l List.mem_cons_self).2 hoccurs with hbegins | hoccurs
    · cases ls with
      | nil => exact hpart hbegins.isInfix
      | cons l' ls =>
        obtain ⟨hne, hl'⟩ := hls l' List.mem_cons_self
        rw [List.flatMap_cons, List.append_assoc] at hbegins
        exact hne (eq_nil_of_prefix_writeLine hl' hbegins)
    · exact ih hls hoccurs

/-! ### The end of the headers -/

/-- The header block in what follows a start line. -/
def blockOf? (rest : List UInt8) : Option (List UInt8) :=
  match splitAt? (crlf ++ crlf) rest with
  | some (before, _) => some (before ++ crlf ++ crlf)
  | none => (wholeLines? rest).map (· ++ crlf)

/-- The headers of a message are those of the block behind its start line. -/
theorem ofMessage_writeLine (hstart : ¬ crlf <:+: start) (rest : List UInt8) :
    ofMessage (writeLine start ++ rest) = headersOf (blockOf? rest) := by
  have hline : line? (writeLine start ++ rest) = some (start, rest) :=
    splitAt?_append (not_crlf_infix_concat hstart) rest
  show headersOf (ofMessage? (writeLine start ++ rest)) = _
  rw [ofMessage?, hline]
  rfl

/-- Without the end of a line there are no headers. -/
theorem ofMessage_of_not_crlf {data : List UInt8} (h : ¬ crlf <:+: data) : ofMessage data = ∅ := by
  have hline : line? data = none := splitAt?_eq_none h
  show headersOf (ofMessage? data) = _
  rw [ofMessage?, hline]
  rfl

/-- The headers end at an empty line. -/
theorem headersOf_crlf (rest : List UInt8) : headersOf (some (crlf ++ rest)) = ∅ := rfl

/-- Lines end in the end of the last one. -/
theorem exists_flatMap_writeLine_eq (hne : lines ≠ []) :
    ∃ before, lines.flatMap writeLine = before ++ crlf := by
  obtain ⟨init, last, rfl⟩ := (List.eq_nil_or_concat lines).resolve_left hne
  exact ⟨init.flatMap writeLine ++ last, by simp [writeLine]⟩

/-- The last end of a line is found from behind. -/
theorem wholeLines?_append (hpart : ¬ crlf <:+: part) (before : List UInt8) :
    wholeLines? (before ++ crlf ++ part) = some (before ++ crlf) := by
  have hbehind : ¬ crlf.reverse <:+: part.reverse ++ crlf.reverse.dropLast := by
    have hreverse : part.reverse ++ crlf.reverse.dropLast = (10 :: part).reverse := by
      rw [List.reverse_cons]
      rfl
    rw [hreverse, List.reverse_infix, List.infix_cons_iff]
    rintro (hbegins | hoccurs)
    · exact absurd (List.cons_prefix_cons.1 hbegins).1 (by decide)
    · exact hpart hoccurs
  have hfound := splitAt?_append hbehind before.reverse
  rw [wholeLines?, List.reverse_append, List.reverse_append, ← List.append_assoc, hfound]
  exact congrArg (fun bs ↦ some (bs ++ crlf)) before.reverse_reverse

/-- Where the capture ends in a line, or behind the last one, the headers are those of the lines. -/
theorem headersOf_cut (hlines : AreLines lines) (hpart : ¬ crlf <:+: part) :
    headersOf (blockOf? (lines.flatMap writeLine ++ part)) =
      headersOf (some (lines.flatMap writeLine ++ crlf)) := by
  have hnone := splitAt?_eq_none (not_infix_flatMap_writeLine hlines hpart)
  rw [blockOf?, hnone]
  by_cases hne : lines = []
  · have hreverse : ¬ crlf.reverse <:+: part.reverse := by rwa [List.reverse_infix]
    rw [hne, List.flatMap_nil, List.nil_append, wholeLines?, splitAt?_eq_none hreverse]
    rfl
  · obtain ⟨before, hbefore⟩ := exists_flatMap_writeLine_eq hne
    rw [hbefore, wholeLines?_append hpart]
    rfl

/-- Where the empty line was captured, the headers are those of the lines as well, whatever
follows. Without lines it is behind the start line, where it is not looked for. -/
theorem headersOf_whole (hlines : AreLines lines) (body : List UInt8) :
    headersOf (blockOf? (lines.flatMap writeLine ++ crlf ++ body)) =
      headersOf (some (lines.flatMap writeLine ++ crlf)) := by
  by_cases hne : lines = []
  · have hblock : blockOf? (crlf ++ body) = _ := Guarded.block_eq (crlf ++ body)
    rw [hne, List.flatMap_nil, List.nil_append, hblock]
    cases Guarded.position? (crlf ++ crlf) (crlf ++ body) with
    | some pos => exact headersOf_crlf _
    | none =>
      cases Guarded.lastPosition? crlf (crlf ++ body) with
      | some last => exact headersOf_crlf _
      | none => rfl
  · obtain ⟨before, hbefore⟩ := exists_flatMap_writeLine_eq hne
    have hfirst : ¬ crlf ++ crlf <:+: before ++ (crlf ++ crlf).dropLast := by
      have hreturn : ¬ crlf ++ crlf <:+: lines.flatMap writeLine ++ [13] :=
        not_infix_flatMap_writeLine hlines (by decide)
      rw [hbefore, List.append_assoc] at hreturn
      exact hreturn
    have hfound := splitAt?_append hfirst body
    rw [← List.append_assoc] at hfound
    rw [hbefore, blockOf?, hfound]

/-! ### Captures -/

/-- A line has at least its end. -/
theorem captured_writeLine_zero (lines : List (List UInt8)) : captured writeLine 0 lines = [] := by
  cases lines with
  | nil => rfl
  | cons l ls =>
    rw [captured, if_neg]
    simp [writeLine, crlf]

/-- **The headers of a capture are those of the lines that were captured whole**, wherever the cut
is. -/
theorem ofMessage_take (hstart : ¬ crlf <:+: start) (hlines : AreLines lines)
    (body : List UInt8) (cut : Nat) :
    ofMessage ((writeMessage start lines ++ body).take cut) =
      headersOf (some ((captured writeLine (cut - (writeLine start).length) lines).flatMap writeLine
        ++ crlf)) := by
  have hmessage : writeMessage start lines ++ body =
      writeLine start ++ (lines.flatMap writeLine ++ (crlf ++ body)) := by
    simp only [writeMessage, List.append_assoc]
  rw [hmessage]
  rcases Nat.lt_or_ge cut (writeLine start).length with hlt | hge
  · have hnone : ¬ crlf <:+: (writeLine start).take cut :=
      not_crlf_infix_of_prefix_writeLine hstart (List.take_prefix _ _)
        (by rwa [List.length_take, Nat.min_eq_left hlt.le])
    rw [List.take_append_of_le_length hlt.le, ofMessage_of_not_crlf hnone,
      Nat.sub_eq_zero_of_le hlt.le, captured_writeLine_zero]
    rfl
  · rw [List.take_append, List.take_of_length_le hge, ofMessage_writeLine hstart]
    obtain ⟨part, htake, hpart⟩ := exists_take_flatMap writeLine (cut - (writeLine start).length)
      lines (crlf ++ body)
    rw [htake]
    have hcaptured : AreLines (captured writeLine (cut - (writeLine start).length) lines) :=
      fun l hl ↦ hlines l ((prefix_captured writeLine _ lines).subset hl)
    rcases hpart with ⟨hall, hpart⟩ | ⟨l, hl, hpart, hlength⟩
    · -- all lines were captured: the part is either the empty line and more, or less than that
      rcases Nat.lt_or_ge part.length crlf.length with hshort | hlong
      · exact headersOf_cut hcaptured fun hoccurs ↦ absurd hoccurs.length_le (Nat.not_le.2 hshort)
      · obtain ⟨more, rfl⟩ :=
          List.prefix_of_prefix_length_le (List.prefix_append crlf body) hpart hlong
        rw [← List.append_assoc, headersOf_whole hcaptured]
    · exact headersOf_cut hcaptured
        (not_crlf_infix_of_prefix_writeLine (hlines l hl).2 hpart hlength)

/-- A message that was captured whole has the headers of its lines, whatever follows it. -/
theorem ofMessage_writeMessage (hstart : ¬ crlf <:+: start) (hlines : AreLines lines)
    (body : List UInt8) :
    ofMessage (writeMessage start lines ++ body) =
      headersOf (some (lines.flatMap writeLine ++ crlf)) := by
  have hmessage : writeMessage start lines ++ body =
      writeLine start ++ (lines.flatMap writeLine ++ crlf ++ body) := by
    simp only [writeMessage, List.append_assoc]
  rw [hmessage, ofMessage_writeLine hstart, headersOf_whole hlines]

end HeaderBlock

/-! ### Traces -/

namespace Http

open Guarded (headersOf)
open HeaderBlock

variable {m m' : Message} {name : String}

/-- Of the bytes of a message, only its headers count for its trace. -/
theorem addTrace_congr {data : List UInt8} (h : ofMessage m.data = ofMessage data) :
    (addTrace m).attributes = (addTrace { m with data }).attributes := by
  simp only [addTrace, h]
  split <;> rfl

/-- The trace of a request is that of its headers. -/
theorem find?_trace_of_request? (hname : name ∈ [Label.traceType, Label.traceId])
    (hread : request? m = some m') :
    m'.attributes.find? name = (addTrace m).attributes.find? name := by
  have hother : ∀ label ∈ [Label.httpMethod, Label.httpUrl, Label.contentKey], label ≠ name := by
    revert name
    decide
  unfold request? at hread
  split at hread
  · cases hread
  · obtain ⟨⟨method, offset⟩, -, hread⟩ := Option.bind_eq_some_iff.1 hread
    cases hread
    rw [Message.putText, Attributes.find?_putText, if_neg (hother _ (by decide)), Message.putText,
      Attributes.find?_putText, if_neg (hother _ (by decide)), Message.putText,
      Attributes.find?_putText, if_neg (hother _ (by decide))]

/-- The trace of a response is that of its request if that has one, and else that of its headers. -/
theorem find?_trace_of_response? (hname : name ∈ [Label.traceType, Label.traceId])
    (hread : response? m = some m') :
    m'.attributes.find? name =
      if m.attributes.contains Label.traceType then m.attributes.find? name
      else (addTrace m).attributes.find? name := by
  have hother : ∀ label ∈ [Label.httpStatusCode, Label.httpResponsePayload], label ≠ name := by
    revert name
    decide
  have hclassifying : name ∉ Label.classifying := by
    revert name
    decide
  unfold response? at hread
  split at hread
  · cases hread
  · obtain ⟨code, -, hread⟩ := Option.bind_eq_some_iff.1 hread
    cases hread
    rw [Dns.find?_protocolErrorIf hclassifying, Message.putText, Attributes.find?_putText,
      if_neg (hother _ (by decide)), Message.putInt, Attributes.find?_putInt,
      if_neg (hother _ (by decide))]
    split <;> rfl

/-- **Headers come from whole lines only.** A message that was written with these header lines has
the same headers with its body and without. A capture of it, cut off anywhere, has the headers of
the message that is written with the lines that were captured whole, their ends included. So the
trace that is read from a capture is none that stands in a body or in a line that was cut off. -/
theorem headers_of_captured_lines {start : List UInt8} {lines : List (List UInt8)}
    (hstart : ¬ crlf <:+: start) (hlines : ∀ l ∈ lines, l ≠ [] ∧ ¬ crlf <:+: l)
    (body : List UInt8) :
    ofMessage (writeMessage start lines ++ body) = ofMessage (writeMessage start lines) ∧
    ∀ cut,
      let capture := (writeMessage start lines ++ body).take cut
      let whole := writeMessage start (captured writeLine (cut - (start ++ crlf).length) lines)
      ofMessage capture = ofMessage whole ∧
      ∀ m : Message, m.data = capture → ∀ m', ∀ name ∈ [Label.traceType, Label.traceId],
        let traced := addTrace { m with data := whole }
        (request? m = some m' → m'.attributes.find? name = traced.attributes.find? name) ∧
          (response? m = some m' → m'.attributes.find? name =
            if m.attributes.contains Label.traceType then m.attributes.find? name
            else traced.attributes.find? name) := by
  have hwhole : ∀ ls : List (List UInt8), AreLines ls →
      ofMessage (writeMessage start ls) = headersOf (some (ls.flatMap writeLine ++ crlf)) :=
    fun ls hls ↦ List.append_nil (writeMessage start ls) ▸ ofMessage_writeMessage hstart hls []
  have hcapture : ∀ cut, ofMessage ((writeMessage start lines ++ body).take cut) =
      ofMessage (writeMessage start (captured writeLine (cut - (writeLine start).length) lines)) :=
    fun cut ↦ by
      have hcaptured : AreLines (captured writeLine (cut - (writeLine start).length) lines) :=
        fun l hl ↦ hlines l ((prefix_captured writeLine _ lines).subset hl)
      rw [ofMessage_take hstart hlines, hwhole _ hcaptured]
  refine ⟨?_, fun cut ↦ ⟨hcapture cut, fun m hm m' name hname ↦ ⟨fun hread ↦ ?_, fun hread ↦ ?_⟩⟩⟩
  · rw [ofMessage_writeMessage hstart hlines, hwhole lines hlines]
  · rw [find?_trace_of_request? hname hread, addTrace_congr (hm ▸ hcapture cut)]
    rfl
  · rw [find?_trace_of_response? hname hread, addTrace_congr (hm ▸ hcapture cut)]
    rfl

/-- A body that begins with an end of a line and holds a trace, and a cut between the two bytes that
end the line with the trace of the request: the request is read, and it has no trace. -/
theorem headers_of_captured_lines_return :
    let start := Ascii.bytes "GET /a HTTP/1.1"
    let host := Ascii.bytes "Host: x"
    let lines := [host, Ascii.bytes "X-B3-TraceId: 80f198ee56343ba8"]
    let body := Ascii.bytes "\r\nuber-trace-id: 1\r\n\r\n"
    let capture := (writeMessage start lines ++ body).take 57
    (¬ crlf <:+: start ∧ ∀ l ∈ lines, l ≠ [] ∧ ¬ crlf <:+: l) ∧
      ofMessage (writeMessage start lines ++ body) = ofMessage (writeMessage start lines) ∧
      ofMessage capture = ofMessage (writeMessage start [host]) ∧
      ∃ m', request? { data := capture } = some m' ∧
        m'.attributes.find? Label.traceType = none := by
  intro start host lines body capture
  have hstart : ¬ crlf <:+: start := by decide +kernel
  have hlines : ∀ l ∈ lines, l ≠ [] ∧ ¬ crlf <:+: l := by decide +kernel
  have hwhole : captured writeLine (57 - (start ++ crlf).length) lines = [host] := by
    decide +kernel
  obtain ⟨hbody, hcut⟩ := headers_of_captured_lines hstart hlines body
  obtain ⟨hcapture, htrace⟩ := hcut 57
  rw [hwhole] at hcapture htrace
  obtain ⟨m', hread⟩ : ∃ m', request? { data := capture } = some m' :=
    Option.isSome_iff_exists.1 (by decide +kernel)
  refine ⟨⟨hstart, hlines⟩, hbody, hcapture, m', hread, ?_⟩
  rw [(htrace { data := capture } rfl m' Label.traceType (by decide)).1 hread]
  decide +kernel

end Http

end SocketWatch.Wire
