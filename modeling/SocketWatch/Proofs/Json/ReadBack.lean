import SocketWatch.Json.Writer
import SocketWatch.Proofs.Json.Scalars
import SocketWatch.Proofs.Text.Numeral
/-!
# Documents are read back from their text

What the writer writes is read as the document that was written (`parse?_render`). Two kinds of scalar
have no text of their own and are left out: a number that is no 64-bit integer, and a garbled part.

The reader finds the end of a document by itself. A string, a list and an object end with a character
of their own; a number goes on as long as it can, so what stands behind it must not continue it. In
what is written a document is followed by a comma, by the end of what it stands in, or by nothing
(`Delimited`).

The reader counts its steps: at most two a character, as every document takes at least one character
and is read in one step of its own and one of the list or object it stands in.
-/

namespace SocketWatch.Json

/-! ### Strings -/

theorem unit?_hexChar :
    ∀ n < 0x20, unit? (some '0') (some '0') (some (Numeral.hexChar (n / 16)))
      (some (Numeral.hexChar n)) = some n := by
  decide

theorem chars?_unit {n : Nat} (h : n < 0xD800) (pieces : List Piece) :
    chars? (.unit n :: pieces) = (chars? pieces).map (Char.ofNat n :: ·) := by
  have hhigh : isHighSurrogate n = false := by simp [isHighSurrogate]; omega
  have hlow : isLowSurrogate n = false := by simp [isLowSurrogate]; omega
  rw [chars?.eq_def]
  simp only [hhigh, hlow, Bool.false_eq_true, if_false]

/-- A character is written as one element of a string, and that element denotes it. -/
theorem exists_piece (c : Char) :
    ∃ piece, (∀ rest, quoted ((writeChar c).map some ++ rest) =
        (quoted rest).map fun read ↦ (piece :: read.1, read.2)) ∧
      ∀ pieces, chars? (piece :: pieces) = (chars? pieces).map (c :: ·) := by
  by_cases hletter : c ∈ ['"', '\\', '\x08', '\x0c', '\n', '\r', '\t']
  · refine ⟨.char c, fun rest ↦ ?_, fun pieces ↦ rfl⟩
    simp only [List.mem_cons, List.not_mem_nil, or_false] at hletter
    rcases hletter with rfl | rfl | rfl | rfl | rfl | rfl | rfl <;>
      exact Option.map_eq_bind.symm
  · simp only [List.mem_cons, List.not_mem_nil, or_false, not_or] at hletter
    by_cases hcontrol : c.toNat < 0x20
    · have hwrite : writeChar c = ['\\', 'u', '0', '0', Numeral.hexChar (c.toNat / 16),
          Numeral.hexChar c.toNat] := by
        simp only [writeChar, hletter, hcontrol, if_true, if_false]
      refine ⟨.unit c.toNat, fun rest ↦ ?_, fun pieces ↦ ?_⟩
      · rw [hwrite]
        show quoted (some '\\' :: some 'u' :: _ :: _ :: _ :: _ :: rest) = _
        rw [quoted, unit?_hexChar _ hcontrol]
        exact Option.map_eq_bind.symm
      · rw [chars?_unit (by omega), Char.ofNat_toNat]
    · have hwrite : writeChar c = [c] := by
        simp only [writeChar, hletter, hcontrol, if_false]
      refine ⟨.char c, fun rest ↦ ?_, fun pieces ↦ rfl⟩
      rw [hwrite]
      show quoted (some c :: rest) = _
      -- neither a quote nor a backslash, with which the other elements begin
      rw [quoted, if_neg hcontrol]
      · rintro ⟨⟩
        exact hletter.1 rfl
      all_goals
        intros
        exact hletter.2.1 (by simp_all)

theorem exists_pieces (cs : List Char) (rest : Input) :
    ∃ pieces, quoted ((cs.flatMap writeChar).map some ++ some '"' :: rest) = some (pieces, rest) ∧
      chars? pieces = some cs := by
  induction cs with
  | nil => exact ⟨[], rfl, rfl⟩
  | cons c cs ih =>
    obtain ⟨piece, hquoted, hchars⟩ := exists_piece c
    obtain ⟨pieces, hread, htext⟩ := ih
    refine ⟨piece :: pieces, ?_, ?_⟩
    · rw [List.flatMap_cons, List.map_append, List.append_assoc, hquoted, hread]
      rfl
    · rw [hchars, htext]
      rfl

/-- **A string is read back from its text**, whatever stands behind its closing quote. -/
theorem exists_writeText (s : String) (rest : Input) :
    ∃ inner pieces, (writeText s).map some ++ rest = some '"' :: inner ∧
      quoted inner = some (pieces, rest) ∧ text? pieces = some s := by
  obtain ⟨pieces, hread, htext⟩ := exists_pieces s.toList rest
  refine ⟨_, pieces, ?_, hread, ?_⟩
  · simp [writeText]
  · rw [text?, htext, Option.map_some, String.ofList_toList]

/-! ### Numbers -/

/-- What stands behind a document in what is written. -/
inductive Delimited : Input → Prop
  /-- The document is all there is. -/
  | nil : Delimited []
  /-- Another item or member follows. -/
  | comma (rest : Input) : Delimited (some ',' :: rest)
  /-- The list ends. -/
  | bracket (rest : Input) : Delimited (some ']' :: rest)
  /-- The object ends. -/
  | brace (rest : Input) : Delimited (some '}' :: rest)

variable {rest : Input}

theorem takeDigits_append {ds : List Char} (hds : ∀ c ∈ ds, c.isDigit = true)
    (h : Delimited rest) : takeDigits (ds.map some ++ rest) = (ds, rest) := by
  induction ds with
  | nil => cases h <;> rfl
  | cons c ds ih =>
    have htail := ih fun d hd ↦ hds d (List.mem_cons_of_mem _ hd)
    rw [List.map_cons, List.cons_append, takeDigits, if_pos (hds c List.mem_cons_self), htail]

theorem magnitude_toDigits (negative : Bool) (n : Nat) (h : Delimited rest) :
    magnitude negative ((Nat.toDigits 10 n).map some ++ rest) =
      some (ofWhole negative n, rest) := by
  have hdigits := takeDigits_append
    (fun c hc ↦ Numeral.isDigit_of_mem_toDigits hc (n := n)) h
  have hzero : ¬(1 < (Nat.toDigits 10 n).length ∧ (Nat.toDigits 10 n).head? = some '0') := by
    rintro ⟨hlength, hhead⟩
    obtain ⟨cs, hcs⟩ := List.head?_eq_some_iff.1 hhead
    rw [hcs] at hlength
    have hcs' : cs ≠ [] := List.ne_nil_of_length_pos (Nat.lt_of_succ_lt_succ hlength)
    exact Numeral.toDigits_ne_zero_cons hcs' hcs
  have hne : Nat.toDigits 10 n ≠ [] := Nat.toDigits_ne_nil
  rw [magnitude, hdigits]
  simp only [List.isEmpty_iff, Bool.or_eq_true, Bool.and_eq_true, decide_eq_true_eq, hzero,
    hne, or_self, if_false, Numeral.digits?_toDigits]
  cases h <;> rfl

theorem ofWhole_natCast {n : Nat} (h : InWord n) : ofWhole false n = .int n := by
  have hlt : n < Word.count 64 := Int.ofNat_lt.1 (inWord_iff.1 h).2
  rw [ofWhole, if_neg Bool.false_ne_true, if_pos hlt]

theorem ofWhole_negSucc {n : Nat} (h : InWord (.negSucc n)) :
    ofWhole true (n + 1) = .int (.negSucc n) := by
  have hle : ¬Word.count 63 < n + 1 := by
    have hlow := (inWord_iff.1 h).1
    omega
  simp only [ofWhole, if_true, Nat.succ_ne_zero, decide_false, hle, Bool.or_self,
    Bool.false_eq_true, if_false]
  rfl

/-- How the text of a number may begin. -/
def LeadsNumber (c : Char) : Prop := c = '-' ∨ c.isDigit = true

theorem LeadsNumber.not_isBlank {c : Char} (h : LeadsNumber c) : isBlank (some c) = false := by
  rcases h with rfl | h
  · rfl
  · refine Bool.eq_false_iff.2 fun hblank ↦ ?_
    simp only [isBlank, Bool.or_eq_true, decide_eq_true_eq] at hblank
    rcases hblank with ((rfl | rfl) | rfl) | rfl <;> cases h

theorem toList_intText_ofNat (n : Nat) :
    (Numeral.intText (.ofNat n)).toList = Nat.toDigits 10 n :=
  String.toList_ofList

theorem toList_intText_negSucc (n : Nat) :
    (Numeral.intText (.negSucc n)).toList = '-' :: Nat.toDigits 10 (n + 1) := by
  simp [Numeral.intText, Numeral.natText]

theorem exists_intText (i : Int) :
    ∃ c cs, (Numeral.intText i).toList = c :: cs ∧ LeadsNumber c := by
  cases i with
  | ofNat n =>
    rw [toList_intText_ofNat]
    obtain ⟨c, cs, hdigits⟩ := List.exists_cons_of_ne_nil (Nat.toDigits_ne_nil (n := n) (b := 10))
    have hc : c ∈ Nat.toDigits 10 n := hdigits ▸ List.mem_cons_self
    exact ⟨c, cs, hdigits, .inr (Numeral.isDigit_of_mem_toDigits hc)⟩
  | negSucc n => exact ⟨_, _, toList_intText_negSucc n, .inl rfl⟩

/-- **A number is read back from its text.** -/
theorem number_intText {i : Int} (hi : InWord i) (h : Delimited rest) :
    number ((Numeral.intText i).toList.map some ++ rest) = some (.int i, rest) := by
  cases i with
  | ofNat n =>
    rw [toList_intText_ofNat, number, magnitude_toDigits false n h, ofWhole_natCast hi]
    · rfl
    · -- digits do not begin with a minus sign
      intro tail htail
      cases hdigits : Nat.toDigits 10 n with
      | nil => exact Nat.toDigits_ne_nil hdigits
      | cons c cs =>
        rw [hdigits] at htail
        injection htail with hc
        injection hc with hc
        exact Numeral.toDigits_ne_cons rfl cs (hc ▸ hdigits)
  | negSucc n =>
    rw [toList_intText_negSucc]
    have hread := magnitude_toDigits true (n + 1) h
    rw [ofWhole_negSucc hi] at hread
    exact hread

/-! ### How a document begins -/

theorem skipBlank_cons {c : Char} (h : isBlank (some c) = false) (rest : Input) :
    skipBlank (some c :: rest) = some c :: rest := by
  rw [skipBlank, List.dropWhile_cons_of_neg]
  simp [h]

/-- No written document begins with a blank or with the end of a list. -/
theorem exists_write (j : Json) :
    ∃ c cs, write j = c :: cs ∧ isBlank (some c) = false ∧ c ≠ ']' := by
  cases j with
  | null | real | garbled | text => exact ⟨_, _, rfl, rfl, by decide⟩
  | bool b => cases b <;> exact ⟨_, _, rfl, rfl, by decide⟩
  | int i =>
    obtain ⟨c, cs, htext, hlead⟩ := exists_intText i
    refine ⟨c, cs, htext, hlead.not_isBlank, ?_⟩
    rintro rfl
    rcases hlead with h | h <;> cases h
  | list xs => cases xs <;> exact ⟨_, _, rfl, rfl, by decide⟩
  | object ms =>
    cases ms with
    | nil => exact ⟨_, _, rfl, rfl, by decide⟩
    | cons m ms => exact ⟨_, _, rfl, rfl, by decide⟩

theorem value_number {c : Char} (h : LeadsNumber c) (steps : Nat) (rest : Input) :
    value (steps + 1) (some c :: rest) = number (some c :: rest) := by
  rw [value, skipBlank_cons h.not_isBlank]
  split
  case h_7 => rfl
  -- each of the other documents begins with a character that is no digit and no sign
  all_goals
    rename_i heq
    injection heq with hc
    injection hc with hc
    rcases h with rfl | h <;> cases hc
  all_goals cases h

theorem value_bracket {c : Char} (hblank : isBlank (some c) = false) (hne : c ≠ ']')
    (steps : Nat) (rest : Input) :
    value (steps + 1) (some '[' :: some c :: rest) =
      (items steps (some c :: rest)).map fun read ↦ (.list read.1, read.2) := by
  rw [value, skipBlank_cons rfl]
  simp only [skipBlank_cons hblank]
  split
  · rename_i heq
    cases heq
    exact absurd rfl hne
  · rfl

theorem value_brace (steps : Nat) (rest : Input) :
    value (steps + 1) (some '{' :: some '"' :: rest) =
      (members steps (some '"' :: rest)).map fun read ↦ (ofMembers read.1, read.2) :=
  rfl

/-! ### Lists and objects -/

/-- A document is read back from its text where enough steps are left. -/
def ReadsBack (j : Json) : Prop :=
  ∀ (steps : Nat) (rest : Input), 2 * (write j).length ≤ steps → Delimited rest →
    value steps ((write j).map some ++ rest) = some (j, rest)

/-- No written document is empty, so there is a step to read it in. -/
theorem readsBack_of_succ {j : Json}
    (h : ∀ (steps : Nat) (rest : Input), 2 * (write j).length ≤ steps + 1 → Delimited rest →
      value (steps + 1) ((write j).map some ++ rest) = some (j, rest)) : ReadsBack j := by
  intro steps rest hsteps hrest
  obtain ⟨c, cs, hj, -⟩ := exists_write j
  obtain ⟨left, rfl⟩ : ∃ left, steps = left + 1 := by
    rw [hj, List.length_cons] at hsteps
    exact ⟨steps - 1, by omega⟩
  exact h left rest hsteps hrest

theorem delimited_writeItems (xs : List Json) (rest : Input) :
    Delimited ((writeItems xs).map some ++ rest) := by
  cases xs with
  | nil => exact .bracket _
  | cons x xs => exact .comma _

theorem delimited_writeMembers (ms : List (String × Json)) (rest : Input) :
    Delimited ((writeMembers ms).map some ++ rest) := by
  cases ms with
  | nil => exact .brace _
  | cons m ms => exact .comma _

theorem items_write {x : Json} {xs : List Json} (hx : ReadsBack x) (hxs : ∀ y ∈ xs, ReadsBack y)
    {steps : Nat} (hsteps : 2 * ((write x).length + (writeItems xs).length) < steps)
    (rest : Input) :
    items steps ((write x).map some ++ ((writeItems xs).map some ++ rest)) =
      some (x :: xs, rest) := by
  obtain ⟨steps, rfl⟩ := Nat.exists_eq_succ_of_ne_zero (Nat.ne_zero_of_lt hsteps)
  induction xs generalizing x steps with
  | nil =>
    rw [items, hx steps _ (by omega) (delimited_writeItems [] rest)]
    rfl
  | cons y ys ih =>
    have hlength : (writeItems (y :: ys)).length =
        (write y).length + (writeItems ys).length + 1 := by
      rw [writeItems, List.length_append, List.length_cons]
      omega
    have hrest : (writeItems (y :: ys)).map some ++ rest =
        some ',' :: ((write y).map some ++ ((writeItems ys).map some ++ rest)) := by
      simp [writeItems]
    obtain ⟨left, rfl⟩ : ∃ left, steps = left + 1 := ⟨steps - 1, by omega⟩
    have hread := ih (hxs y List.mem_cons_self) (fun z hz ↦ hxs z (List.mem_cons_of_mem _ hz))
      left (by omega)
    rw [items, hx _ _ (by omega) (delimited_writeItems (y :: ys) rest), hrest]
    show (items (left + 1) _).map _ = _
    rw [hread]
    rfl

theorem members_writeText {name : String} {v : Json} {steps : Nat} {input : Input}
    (hv : value steps input = some (v, rest)) :
    members (steps + 1) ((writeText name).map some ++ some ':' :: input) =
      match skipBlank rest with
      | some '}' :: rest => some ([(some name, v)], rest)
      | some ',' :: rest =>
        (members steps rest).map fun read ↦ ((some name, v) :: read.1, read.2)
      | _ => none := by
  obtain ⟨inner, pieces, htext, hquoted, hname⟩ := exists_writeText name (some ':' :: input)
  rw [htext, members, skipBlank_cons rfl]
  show (quoted inner).bind _ = _
  rw [hquoted]
  show (value steps input).bind _ = _
  rw [hv, ← hname]
  rfl

theorem members_write (name : String) {v : Json} {ms : List (String × Json)} (hv : ReadsBack v)
    (hms : ∀ m ∈ ms, ReadsBack m.2) {steps : Nat}
    (hsteps : 2 * ((write v).length + (writeMembers ms).length) < steps) (rest : Input) :
    members steps ((writeText name).map some ++
        some ':' :: ((write v).map some ++ ((writeMembers ms).map some ++ rest))) =
      some ((some name, v) :: ms.map fun m ↦ (some m.1, m.2), rest) := by
  obtain ⟨steps, rfl⟩ := Nat.exists_eq_succ_of_ne_zero (Nat.ne_zero_of_lt hsteps)
  induction ms generalizing name v steps with
  | nil =>
    rw [members_writeText (hv steps _ (by omega) (delimited_writeMembers [] rest))]
    rfl
  | cons m ms ih =>
    obtain ⟨next, w⟩ := m
    have hlength : (write w).length + (writeMembers ms).length <
        (writeMembers ((next, w) :: ms)).length := by
      rw [writeMembers]
      simp only [List.length_append, List.length_cons]
      omega
    have hrest : (writeMembers ((next, w) :: ms)).map some ++ rest = some ',' ::
        ((writeText next).map some ++
          some ':' :: ((write w).map some ++ ((writeMembers ms).map some ++ rest))) := by
      simp [writeMembers]
    have hw : ReadsBack w := hms (next, w) List.mem_cons_self
    obtain ⟨left, rfl⟩ : ∃ left, steps = left + 1 := ⟨steps - 1, by omega⟩
    have hread := ih next hw (fun m hm ↦ hms m (List.mem_cons_of_mem _ hm)) left (by omega)
    rw [members_writeText (hv _ _ (by omega) (delimited_writeMembers ((next, w) :: ms) rest)),
      hrest]
    show (members (left + 1) _).map _ = _
    rw [hread]
    rfl

theorem ofMembers_some (ms : List (String × Json)) :
    ofMembers (ms.map fun m ↦ (some m.1, m.2)) = .object ms := by
  have hnamed : (ms.map fun m ↦ (some m.1, m.2)).mapM
      (fun (m : Option String × Json) ↦ m.1.map fun name ↦ (name, m.2)) = some ms := by
    rw [mapM_eq_some_iff, List.forall₂_map_left_iff, List.forall₂_same]
    exact fun _ _ ↦ rfl
  unfold ofMembers
  split
  · rename_i hsome
    cases hnamed.symm.trans hsome
    rfl
  · rename_i hnone
    cases hnamed.symm.trans hnone

/-! ### Documents -/

/-- The scalars whose text denotes them. -/
def IsExact : Json → Prop
  | .null | .bool _ | .text _ => True
  | .int i => InWord i
  | _ => False

theorem readsBack_scalar {j : Json} (h : IsExact j) : ReadsBack j := by
  refine readsBack_of_succ fun steps rest _ hrest ↦ ?_
  cases j with
  | null => rfl
  | bool b => cases b <;> rfl
  | int i =>
    obtain ⟨c, cs, htext, hlead⟩ := exists_intText i
    have hnumber := number_intText h hrest
    rw [write, htext] at *
    exact (value_number hlead steps _).trans hnumber
  | text s =>
    obtain ⟨inner, pieces, htext, hquoted, hname⟩ := exists_writeText s rest
    rw [write, htext, value, skipBlank_cons rfl]
    show (quoted inner).map _ = _
    rw [hquoted]
    show some ((text? pieces).elim Json.garbled .text, rest) = _
    rw [hname]
    rfl
  | real | garbled | list | object => cases h

theorem readsBack_list {xs : List Json} (h : ∀ x ∈ xs, ReadsBack x) : ReadsBack (.list xs) := by
  refine readsBack_of_succ fun steps rest hsteps _ ↦ ?_
  cases xs with
  | nil => rfl
  | cons x xs =>
    have htext : (write (.list (x :: xs))).map some ++ rest =
        some '[' :: ((write x).map some ++ ((writeItems xs).map some ++ rest)) := by
      simp [write]
    rw [write, List.length_append, List.length_cons] at hsteps
    have hread := items_write (h x List.mem_cons_self)
      (fun y hy ↦ h y (List.mem_cons_of_mem _ hy)) (show _ < steps by omega) rest
    obtain ⟨c, cs, hx, hblank, hne⟩ := exists_write x
    rw [hx] at hread htext
    calc value (steps + 1) _ = value (steps + 1) _ := congrArg _ htext
      _ = (items steps _).map _ := value_bracket hblank hne steps _
      _ = some (.list (x :: xs), rest) := congrArg _ hread

theorem readsBack_object {ms : List (String × Json)} (h : ∀ m ∈ ms, ReadsBack m.2) :
    ReadsBack (.object ms) := by
  refine readsBack_of_succ fun steps rest hsteps _ ↦ ?_
  cases ms with
  | nil => rfl
  | cons m ms =>
    obtain ⟨name, v⟩ := m
    have htext : (write (.object ((name, v) :: ms))).map some ++ rest =
        some '{' :: ((writeText name).map some ++
          some ':' :: ((write v).map some ++ ((writeMembers ms).map some ++ rest))) := by
      simp [write]
    have hlength : (write v).length + (writeMembers ms).length + 2 ≤
        (write (.object ((name, v) :: ms))).length := by
      rw [write]
      simp only [List.length_append, List.length_cons]
      omega
    have hv : ReadsBack v := h (name, v) List.mem_cons_self
    have hread := members_write name hv (fun m hm ↦ h m (List.mem_cons_of_mem _ hm))
      (show _ < steps by omega) rest
    calc value (steps + 1) _ = value (steps + 1) _ := congrArg _ htext
      _ = (members steps _).map _ := value_brace steps _
      _ = some (ofMembers _, rest) := congrArg _ hread
      _ = some (.object ((name, v) :: ms), rest) := by rw [← ofMembers_some]; rfl

theorem readsBack {j : Json} (h : Every IsExact j) : ReadsBack j := by
  induction h with
  | scalar h => exact readsBack_scalar h
  | list _ ih => exact readsBack_list ih
  | object _ ih => exact readsBack_object ih

/-- **A document is read back from its text**, if each of its scalars has one. -/
theorem parse?_render {j : Json} (h : Every IsExact j) : parse? (render j) = some j := by
  have hread := readsBack h (2 * (write j).length + 2) [] (by omega) .nil
  rw [List.append_nil] at hread
  rw [parse?, render, String.toList_ofList, ofInput?, List.length_map, hread]
  rfl

end SocketWatch.Json
