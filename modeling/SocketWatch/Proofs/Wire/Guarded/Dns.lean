import SocketWatch.Proofs.Wire.Guarded.Basic
import SocketWatch.Wire.Dns
/-!
# DNS by position

A name is read in a loop that a message can lead anywhere with its pointers, also in a circle. What
ends the loop is that only so many pointers are followed, and that between two of them the position
moves on: `guardedLabels_eq` has as many turns as there are bytes, once for each pointer and once
more. The loop is at fault nowhere because it stops at the first position behind the end, and a
pointer leads no further than 14 bits can tell.
-/

namespace SocketWatch.Wire.Dns

open Guarded

variable {data : List UInt8} {m : Message} {base pos offset : Nat}

/-! ### Names -/

/-- The labels of a name and the position behind it, in so many turns: behind what was read at
`pos`, after `found` and so many pointers. `stop` is the position behind the first pointer. -/
def guardedLabels (data : List UInt8) (base : Nat) :
    Nat → List (List UInt8) → Nat → Option Nat → Nat → Guarded (List (List UInt8) × Nat)
  | 0, _, _, _, _ => fault .endless
  | turns + 1, found, pos, stop, hops => do
    let n ← ofOption (byte? data pos)
    if n = 0 then do
      let behind ← add pos 1
      return (found, stop.getD behind)
    else if 0xC0 ≤ n then do
      let next ← add pos 1
      let low ← ofOption (byte? data next)
      let behind ← stop.elim (add pos 2) value
      let hops ← add hops 1
      if maxPointers < hops then refused
      else do
        let target ← add base (n.toNat % 64 * 256 + low.toNat)
        guardedLabels data base turns found target (some behind) hops
    else if 0x40 ≤ n then refused
    else do
      let start ← add pos 1
      let next ← add start n.toNat
      let label ← ofOption (range? data start next)
      guardedLabels data base turns (found ++ [label]) next stop hops

/-- The name at a position as text, and the position behind it. -/
def guardedName (data : List UInt8) (base start : Nat) : Guarded (String × Nat) := do
  let name ← guardedLabels data base ((maxPointers + 1) * (data.length + 1)) [] start none 0
  return (nameText name.1, name.2)

/-- What follows a run of labels. -/
def afterRun? (data : List UInt8) (base hops start : Nat) :
    List (List UInt8) × Ending × Nat → Option (List (List UInt8) × Nat)
  | (labels, .root, size) => some (labels, start + size)
  | (labels, .pointer target, size) => match hops with
    | 0 => none
    | hops + 1 => (labels? data base hops (base + target)).map fun name ↦
      (labels ++ name.1, start + size)

/-- A name is a run of labels and what follows it. The recursion stands under a bind, where `rw`
finds no equation for it, so the definition is opened by hand. -/
theorem labels?_run (data : List UInt8) (base hops start : Nat) :
    labels? data base hops start =
      (labelRun (data.drop start)).bind (afterRun? data base hops start) := by
  cases hops with
  | zero =>
    delta labels?
    show Option.bind (labelRun (data.drop start)) _ = _
    refine congrArg _ (funext fun ⟨labels, ending, size⟩ ↦ ?_)
    cases ending <;> rfl
  | succ hops =>
    delta labels?
    show Option.bind (labelRun (data.drop start)) _ = _
    refine congrArg _ (funext fun ⟨labels, ending, size⟩ ↦ ?_)
    cases ending with
    | root => rfl
    | pointer target =>
      rw [afterRun?, Option.map_eq_bind]
      delta labels?
      rfl

/-- A label in front is a label in front of what follows the run. -/
theorem afterRun?_label (label : List UInt8) (hops : Nat)
    (run : List (List UInt8) × Ending × Nat) :
    afterRun? data base hops pos (label :: run.1, run.2.1, run.2.2 + 1 + offset) =
      (afterRun? data base hops (pos + 1 + offset) run).map fun name ↦
        (label :: name.1, name.2) := by
  obtain ⟨labels, ending, size⟩ := run
  have hstop : pos + (size + 1 + offset) = pos + 1 + offset + size := by omega
  cases ending with
  | root => simp [afterRun?, hstop]
  | pointer target =>
    cases hops with
    | zero => rfl
    | succ hops => simp [afterRun?, hstop, Option.map_map, Function.comp_def]

/-- Reading a name goes byte by byte of length. -/
theorem labels?_eq (data : List UInt8) (base hops pos : Nat) :
    labels? data base hops pos = (byte? data pos).bind fun n ↦
      if n = 0 then some ([], pos + 1)
      else if 0xC0 ≤ n then (byte? data (pos + 1)).bind fun low ↦
        match hops with
        | 0 => none
        | hops + 1 =>
          (labels? data base hops (base + (n.toNat % 64 * 256 + low.toNat))).map fun name ↦
            (name.1, pos + 2)
      else if 0x40 ≤ n then none
      else (slice? data (pos + 1) n.toNat).bind fun label ↦
        (labels? data base hops (pos + 1 + n.toNat)).map fun name ↦ (label :: name.1, name.2) := by
  rw [labels?_run]
  rcases Nat.lt_or_ge pos data.length with hlt | hge
  · have hbyte : byte? data pos = some data[pos] := List.getElem?_eq_getElem hlt
    rw [hbyte, Option.bind_some, List.drop_eq_getElem_cons hlt, labelRun.eq_def]
    simp only
    generalize data[pos] = n
    split
    · rfl
    · split
      · rcases Nat.lt_or_ge (pos + 1) data.length with hlt' | hge'
        · have hlow : byte? data (pos + 1) = some data[pos + 1] := List.getElem?_eq_getElem hlt'
          rw [hlow, List.drop_eq_getElem_cons hlt']
          cases hops <;> rfl
        · have hlow : byte? data (pos + 1) = none := List.getElem?_eq_none hge'
          rw [hlow, List.drop_eq_nil_of_le hge']
          rfl
      · split
        · rfl
        · rw [slice?, List.length_drop]
          split
          · rw [if_neg (by omega)]
            rfl
          · rw [if_pos (by omega), List.drop_drop, Option.bind_some, Option.bind_map, labels?_run,
              Option.map_bind]
            exact congrArg _ (funext fun run ↦ afterRun?_label _ hops run)
  · have hbyte : byte? data pos = none := List.getElem?_eq_none hge
    rw [hbyte, List.drop_eq_nil_of_le hge, labelRun]
    rfl

/-- **The loop ends**, and gives the labels and the position behind the name. A turn is spent on a
byte of length: either the position moves on, or one pointer less may be followed. -/
theorem guardedLabels_eq (hdata : Captured data) (hbase : base ≤ 2) {turns hops : Nat}
    {found : List (List UInt8)} {stop : Option Nat} (hhops : hops ≤ maxPointers)
    (hturns : (maxPointers - hops) * (data.length + 1) + (data.length - pos) < turns) :
    guardedLabels data base turns found pos stop hops =
      ofOption ((labels? data base (maxPointers - hops) pos).map fun name ↦
        (found ++ name.1, stop.getD name.2)) := by
  have hlength := hdata.length_lt
  have hmax : maxPointers = 8 := rfl
  induction turns generalizing found pos stop hops with
  | zero => omega
  | succ turns ih =>
    rw [guardedLabels, labels?_eq, Option.map_bind]
    refine ofOption_bind fun n hn ↦ ?_
    have hpos : pos < data.length := (List.getElem?_eq_some_iff.1 hn).1
    have hsize := n.toNat_lt
    simp only [Function.comp_apply]
    split
    · rw [add_eq (by omega), value_bind, Option.map_some, List.append_nil]
      rfl
    · split
      · rw [add_eq (by omega), value_bind, Option.map_bind]
        refine ofOption_bind fun low _ ↦ ?_
        have hlow := low.toNat_lt
        have hbehind : stop.elim (add pos 2) value = value (stop.getD (pos + 2)) := by
          rw [add_eq (by omega)]
          cases stop <;> rfl
        rw [hbehind, value_bind, add_eq (by omega), value_bind, Function.comp_apply]
        rcases Nat.lt_or_ge maxPointers (hops + 1) with hmany | hfew
        · have hnone : maxPointers - hops = 0 := by omega
          rw [if_pos hmany, hnone]
          rfl
        · have hone : maxPointers - hops = maxPointers - (hops + 1) + 1 := by omega
          rw [hone, Nat.succ_mul] at hturns
          rw [if_neg (Nat.not_lt.2 hfew), add_eq (by omega), value_bind, ih hfew (by omega), hone,
            Option.map_map]
          rfl
      · split
        · rfl
        · rw [add_eq (by omega), value_bind, add_eq (by omega), value_bind, range?_add,
            Option.map_bind]
          refine ofOption_bind fun label _ ↦ ?_
          rw [ih hhops (by omega), Function.comp_apply, Option.map_map]
          simp only [Function.comp_def, List.append_assoc, List.singleton_append]

theorem guardedName_eq (hdata : Captured data) (hbase : base ≤ 2) (start : Nat) :
    guardedName data base start = ofOption (name? data base start) := by
  have hturns : (maxPointers - 0) * (data.length + 1) + (data.length - start) <
      (maxPointers + 1) * (data.length + 1) := by
    rw [Nat.succ_mul, Nat.sub_zero]
    omega
  rw [guardedName, guardedLabels_eq hdata hbase (Nat.zero_le _) hturns, name?]
  cases labels? data base maxPointers start <;> rfl

/-! ### Sections -/

/-- The first name that is not empty among so many questions, after `domain`, and the position
behind them. -/
def guardedQuestions (data : List UInt8) (base : Nat) : Nat → Nat → String → Guarded (String × Nat)
  | 0, offset, domain => value (domain, offset)
  | n + 1, offset, domain => do
    let name ← guardedName data base offset
    if data.length ≤ name.2 then refused
    else do
      let next ← add name.2 4
      guardedQuestions data base n next (if domain.isEmpty then name.1 else domain)

theorem guardedQuestions_eq (hdata : Captured data) (hbase : base ≤ 2) (n : Nat) (domain : String) :
    guardedQuestions data base n offset domain =
      ofOption ((questions? data base n offset).map fun read ↦
        (if domain.isEmpty then read.1 else domain, read.2)) := by
  have hlength := hdata.length_lt
  induction n generalizing offset domain with
  | zero =>
    have hdomain : (if domain.isEmpty then "" else domain) = domain := by
      cases hempty : domain.isEmpty
      · rfl
      · exact (String.isEmpty_iff.1 hempty).symm
    rw [guardedQuestions, questions?, Option.map_some, hdomain]
    rfl
  | succ n ih =>
    rw [guardedQuestions, guardedName_eq hdata hbase, questions?]
    show _ = ofOption (Option.map _ (Option.bind _ _))
    rw [Option.map_bind]
    refine ofOption_bind fun ⟨name, stop⟩ _ ↦ ?_
    simp only [Function.comp_apply]
    split
    · rfl
    · rw [add_eq (by omega), value_bind, ih]
      show _ = ofOption (Option.map _ (Option.bind _ _))
      rw [Option.map_bind, Option.map_eq_bind]
      refine congrArg ofOption (congrArg _ (funext fun ⟨later, stop⟩ ↦ ?_))
      simp only [Function.comp_apply, Option.map_some]
      cases hdomain : domain.isEmpty with
      | false => simp only [hdomain, Bool.false_eq_true, if_false]
      | true => rfl

/-- The addresses among so many answers. The first answer that is cut off ends the list. -/
def guardedAddresses (data : List UInt8) : Nat → Nat → Guarded (List Ipv4)
  | 0, _ => value []
  | n + 1, offset => do
    let kindAt ← add offset 2
    let kind ← (uint data kindAt 2).attempt
    match kind with
    | none => value []
    | some kind => do
      let sizeAt ← add kindAt 8
      let size ← (uint data sizeAt 2).attempt
      match size with
      | none => value []
      | some size => do
        let start ← add sizeAt 2
        if kind = 1 && size = 4 then do
          let ip ← (uint data start 4).attempt
          match ip with
          | none => value []
          | some ip => do
            let next ← add start size
            let rest ← guardedAddresses data n next
            return ⟨UInt32.ofNat ip⟩ :: rest
        else do
          let next ← add start size
          guardedAddresses data n next

theorem guardedAddresses_eq (hdata : Captured data) (n : Nat)
    (hoffset : offset ≤ data.length + 0x10000) :
    guardedAddresses data n offset = value (addresses data n offset) := by
  have hlength := hdata.length_lt
  induction n generalizing offset with
  | zero => rfl
  | succ n ih =>
    rw [guardedAddresses, add_eq (by omega), value_bind, uint_eq (by omega), attempt_ofOption,
      value_bind, addresses]
    cases uint? data (offset + 2) 2 with
    | none => rfl
    | some kind =>
      have hsizeAt : offset + 2 + 8 = offset + 10 := rfl
      have hstart : offset + 10 + 2 = offset + 12 := rfl
      simp only
      rw [add_eq (by omega), value_bind, hsizeAt, uint_eq (by omega), attempt_ofOption, value_bind]
      cases hsize : uint? data (offset + 10) 2 with
      | none => rfl
      | some size =>
        have hlt : size < 0x10000 := uint?_lt hsize
        have hle := uint?_le hsize
        simp only
        rw [add_eq (by omega), value_bind, hstart, uint_eq (by omega), attempt_ofOption, value_bind]
        refine ite_value (fun _ ↦ ?_) fun _ ↦ ?_
        · cases hip : uint? data (offset + 12) 4 with
          | none => rfl
          | some ip =>
            simp only
            rw [add_eq (by omega), value_bind, ih (by omega)]
            rfl
        · rw [add_eq (by omega), value_bind, ih (by omega)]

/-- From nothing, the first name that is not empty is found. -/
theorem guardedQuestions_start (hdata : Captured data) (hbase : base ≤ 2) (n : Nat) :
    guardedQuestions data base n offset "" = ofOption (questions? data base n offset) := by
  rw [guardedQuestions_eq hdata hbase]
  cases questions? data base n offset <;> rfl

/-- Behind a question there is at most its type and class that was not captured. -/
theorem le_of_questions? {n stop : Nat} {name : String} (hoffset : offset ≤ data.length + 4)
    (h : questions? data base n offset = some (name, stop)) : stop ≤ data.length + 4 := by
  induction n generalizing offset name stop with
  | zero =>
    cases h
    exact hoffset
  | succ n ih =>
    obtain ⟨⟨first, behind⟩, -, h⟩ := Option.bind_eq_some_iff.1 h
    simp only at h
    split at h
    · cases h
    · obtain ⟨⟨later, stop'⟩, hlater, h⟩ := Option.bind_eq_some_iff.1 h
      cases h
      exact ih (by omega) hlater

/-! ### Messages -/

/-- A number of the header at a position. -/
def guardedNumber (data : List UInt8) (start place : Nat) : Guarded Nat := do
  let i ← add start place
  uint data i 2

/-- The header at a position. -/
def guardedHeader (data : List UInt8) (start : Nat) : Guarded Header := do
  let id ← uint data start 2
  let flags ← guardedNumber data start 2
  let questions ← guardedNumber data start 4
  let answers ← guardedNumber data start 6
  let authorities ← guardedNumber data start 8
  let additionals ← guardedNumber data start 10
  return { id, flags, questions, answers, authorities, additionals }

/-- The records of all sections, in 32 bits. -/
def guardedRecords (h : Header) : Guarded Nat := do
  let n ← addIn 32 h.questions h.answers
  let n ← addIn 32 n h.authorities
  addIn 32 n h.additionals

/-- Whether there is a question and not too many records. -/
def guardedPlausible (h : Header) : Guarded Bool :=
  if h.questions = 0 then value false
  else do
    let records ← guardedRecords h
    return records ≤ maxRecords

/-- Read a request. -/
def guardedRequest (m : Message) : Guarded Message := do
  let start ← add (Dns.base m) headerLength
  if m.data.length ≤ start then refused
  else do
    let h ← guardedHeader m.data (Dns.base m)
    if h.isResponse then refused
    else do
      let credible ← guardedPlausible h
      if !credible then refused
      else do
        let query ← guardedQuestions m.data (Dns.base m) h.questions start ""
        return ((m.seek query.2).putInt Label.dnsId h.id).putText Label.dnsDomain query.1

/-- Read a response. -/
def guardedResponse (m : Message) : Guarded Message := do
  let start ← add (Dns.base m) headerLength
  let longest ← add (Dns.base m) maxResponse
  if m.data.length ≤ start || longest < m.data.length then refused
  else do
    let h ← guardedHeader m.data (Dns.base m)
    if !h.isResponse || 2 < h.opcode || 5 < h.rcode then refused
    else do
      let credible ← guardedPlausible h
      if !credible then refused
      else do
        let query ← guardedQuestions m.data (Dns.base m) h.questions start ""
        let ips ← guardedAddresses m.data h.answers query.2
        let m := m.putText Label.dnsDomain query.1
        let m := if ips.isEmpty then m
          else m.putText Label.dnsIp (",".intercalate (ips.map Ipv4.text))
        let m := (m.putInt Label.dnsId h.id).putInt Label.dnsRcode h.rcode
        return m.protocolErrorIf (0 < h.rcode)

theorem base_le (m : Message) : Dns.base m ≤ 2 := by
  unfold Dns.base
  split <;> decide

theorem guardedHeader_eq {start : Nat} (hstart : start ≤ 2) :
    guardedHeader data start = ofOption (header? data start) := by
  have hnumber : ∀ place, place ≤ 10 →
      guardedNumber data start place = ofOption (uint? data (start + place) 2) := by
    intro place hplace
    rw [guardedNumber, add_eq (by omega), value_bind, uint_eq (by omega)]
  rw [guardedHeader, header?, uint_eq (by omega)]
  refine ofOption_bind fun id _ ↦ ?_
  rw [hnumber 2 (by decide)]
  refine ofOption_bind fun flags _ ↦ ?_
  rw [hnumber 4 (by decide)]
  refine ofOption_bind fun questions _ ↦ ?_
  rw [hnumber 6 (by decide)]
  refine ofOption_bind fun answers _ ↦ ?_
  rw [hnumber 8 (by decide)]
  refine ofOption_bind fun authorities _ ↦ ?_
  rw [hnumber 10 (by decide)]
  exact ofOption_bind fun additionals _ ↦ rfl

/-- The numbers of records have 16 bits each. -/
theorem records_lt {start : Nat} {h : Header} (hh : header? data start = some h) :
    h.questions < 0x10000 ∧ h.answers < 0x10000 ∧ h.authorities < 0x10000 ∧
      h.additionals < 0x10000 := by
  obtain ⟨id, -, hh⟩ := Option.bind_eq_some_iff.1 hh
  obtain ⟨flags, -, hh⟩ := Option.bind_eq_some_iff.1 hh
  obtain ⟨questions, hquestions, hh⟩ := Option.bind_eq_some_iff.1 hh
  obtain ⟨answers, hanswers, hh⟩ := Option.bind_eq_some_iff.1 hh
  obtain ⟨authorities, hauthorities, hh⟩ := Option.bind_eq_some_iff.1 hh
  obtain ⟨additionals, hadditionals, hh⟩ := Option.bind_eq_some_iff.1 hh
  cases hh
  exact ⟨uint?_lt hquestions, uint?_lt hanswers, uint?_lt hauthorities, uint?_lt hadditionals⟩

theorem guardedPlausible_eq {start : Nat} {h : Header} (hh : header? data start = some h) :
    guardedPlausible h = value h.isPlausible := by
  obtain ⟨hquestions, hanswers, hauthorities, hadditionals⟩ := records_lt hh
  have hcount : Word.count 32 = 0x100000000 := rfl
  rw [guardedPlausible, Header.isPlausible]
  by_cases hzero : h.questions = 0
  · rw [if_pos hzero]
    simp [hzero]
  · rw [if_neg hzero, guardedRecords, addIn_eq (by omega), value_bind, addIn_eq (by omega),
      value_bind, addIn_eq (by omega), value_bind, decide_eq_true hzero, Bool.true_and]
    rfl

theorem guardedRequest_eq (hm : Captured m.data) : guardedRequest m = ofOption (request? m) := by
  have hbase := base_le m
  have hheader : headerLength = 12 := rfl
  rw [guardedRequest, request?, add_eq (by omega), value_bind]
  refine ite_ofOption (fun _ ↦ rfl) fun _ ↦ ?_
  rw [guardedHeader_eq hbase]
  refine ofOption_bind fun h hh ↦ ?_
  rw [guardedPlausible_eq hh, value_bind]
  cases h.isResponse with
  | true => rfl
  | false =>
    rw [if_neg Bool.false_ne_true, Bool.false_or]
    refine ite_ofOption (fun _ ↦ rfl) fun _ ↦ ?_
    rw [guardedQuestions_start hm hbase]
    exact ofOption_bind fun _ _ ↦ rfl

theorem guardedResponse_eq (hm : Captured m.data) :
    guardedResponse m = ofOption (response? m) := by
  have hbase := base_le m
  have hheader : headerLength = 12 := rfl
  have hlongest : maxResponse = 512 := rfl
  rw [guardedResponse, response?, add_eq (by omega), value_bind, add_eq (by omega), value_bind]
  refine ite_ofOption (fun _ ↦ rfl) fun hlong ↦ ?_
  have hstart : Dns.base m + headerLength ≤ m.data.length + 4 := by
    simp at hlong
    omega
  rw [guardedHeader_eq hbase]
  refine ofOption_bind fun h hh ↦ ?_
  rw [guardedPlausible_eq hh, value_bind]
  cases (!h.isResponse || 2 < h.opcode || 5 < h.rcode) with
  | true => rfl
  | false =>
    rw [if_neg Bool.false_ne_true, Bool.false_or]
    refine ite_ofOption (fun _ ↦ rfl) fun _ ↦ ?_
    rw [guardedQuestions_start hm hbase]
    refine ofOption_bind fun ⟨domain, stop⟩ hquestions ↦ ?_
    have hstop := le_of_questions? hstart hquestions
    rw [guardedAddresses_eq hm _ (by omega), value_bind]
    rfl

end SocketWatch.Wire.Dns
