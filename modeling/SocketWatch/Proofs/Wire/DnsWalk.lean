import SocketWatch.Proofs.Wire.DnsName
/-!
# Reading a name comes to an end

A name is read turn by turn: each looks at a byte of length, and goes over a label, follows a pointer
or ends the reading (`Walk.turn`). Pointers may lead backwards and in circles, so the position alone
tells nothing. What gets smaller is the pointers that are left, and between two of them the bytes that
are left (`Walk.left`); hence every reading ends, within nine times as many turns as there are bytes,
and with the name that `name?` gives (`Walk.endsIn`).

The position behind a name does not depend on what its pointers lead to. It is the one behind the first
run of labels (`exists_labelRun_of_name?`), and how long that run is its own bytes say
(`labelRun_take`).
-/

namespace SocketWatch.Wire.Dns

open Guarded

variable {data : List UInt8} {base start stop : Nat}

/-! ### Turns -/

/-- How far the reading of a name has come. -/
structure Walk where
  /-- The labels that were found. -/
  found : List (List UInt8) := []
  /-- Where the next byte of length stands. -/
  position : Nat
  /-- The position behind the first pointer, once one was met. -/
  stop? : Option Nat := none
  /-- How many pointers were followed. -/
  pointers : Nat := 0

/-- What a turn comes to. -/
inductive Turn where
  /-- The reading is over, with the labels of the name and the position behind it, or without. -/
  | ended (name : Option (List (List UInt8) × Nat))
  /-- It goes on behind a label. -/
  | label (w : Walk)
  /-- It goes on where a pointer leads. -/
  | pointer (w : Walk)

namespace Walk

/-- One turn. -/
def turn (data : List UInt8) (base : Nat) (w : Walk) : Turn :=
  match data[w.position]? with
  | none => .ended none
  | some n =>
    if n = 0 then .ended (some (w.found, w.stop?.getD (w.position + 1)))
    else if 0xC0 ≤ n then match data[w.position + 1]? with
      | none => .ended none
      | some low =>
        if w.pointers < maxPointers then
          .pointer { w with
            position := base + (n.toNat % 64 * 256 + low.toNat)
            stop? := some (w.stop?.getD (w.position + 2))
            pointers := w.pointers + 1 }
        else .ended none
    else if 0x40 ≤ n then .ended none
    else match slice? data (w.position + 1) n.toNat with
      | none => .ended none
      | some label =>
        .label { w with found := w.found ++ [label], position := w.position + 1 + n.toNat }

/-- From here the reading is over after so many turns, of which so many follow a pointer. -/
inductive EndsIn (data : List UInt8) (base : Nat) :
    Nat → Nat → Walk → Option (List (List UInt8) × Nat) → Prop
  | ended {w : Walk} {name : Option (List (List UInt8) × Nat)}
      (hturn : w.turn data base = .ended name) : EndsIn data base 1 0 w name
  | label {turns pointers : Nat} {w w' : Walk} {name : Option (List (List UInt8) × Nat)}
      (hturn : w.turn data base = .label w') (hrest : EndsIn data base turns pointers w' name) :
      EndsIn data base (turns + 1) pointers w name
  | pointer {turns pointers : Nat} {w w' : Walk} {name : Option (List (List UInt8) × Nat)}
      (hturn : w.turn data base = .pointer w') (hrest : EndsIn data base turns pointers w' name) :
      EndsIn data base (turns + 1) (pointers + 1) w name

/-- The name that is read when this is how far the reading has come. -/
def name? (data : List UInt8) (base : Nat) (w : Walk) : Option (List (List UInt8) × Nat) :=
  (labels? data base (maxPointers - w.pointers) w.position).map fun name ↦
    (w.found ++ name.1, w.stop?.getD name.2)

/-- How much may still be read: the bytes that are left, and all bytes again for each pointer that
may still be followed. -/
def left (data : List UInt8) (w : Walk) : Nat :=
  (maxPointers - w.pointers) * (data.length + 1) + (data.length - w.position)

/-- What a turn may come to: it ends the reading with the name that is read, or that name is read from
where it goes on, with less left to read. -/
inductive Advances (data : List UInt8) (base : Nat) (w : Walk) : Turn → Prop
  | ended {name : Option (List (List UInt8) × Nat)} (hname : w.name? data base = name) :
      Advances data base w (.ended name)
  | label {w' : Walk} (hname : w.name? data base = w'.name? data base)
      (hpointers : w'.pointers = w.pointers) (hleft : w'.left data < w.left data) :
      Advances data base w (.label w')
  | pointer {w' : Walk} (hname : w.name? data base = w'.name? data base)
      (hpointers : w'.pointers = w.pointers + 1) (hfew : w.pointers < maxPointers)
      (hleft : w'.left data < w.left data) : Advances data base w (.pointer w')

/-- **Every turn brings the reading on.** -/
theorem advances_turn (data : List UInt8) (base : Nat) (w : Walk) :
    w.Advances data base (w.turn data base) := by
  have hread := labels?_eq data base (maxPointers - w.pointers) w.position
  rw [turn]
  cases hn : data[w.position]? with
  | none =>
    rw [byte?, hn] at hread
    exact .ended (by rw [Walk.name?, hread]; rfl)
  | some n =>
    have hposition : w.position < data.length := (List.getElem?_eq_some_iff.1 hn).1
    rw [byte?, hn, Option.bind_some] at hread
    simp only
    split at hread
    · rw [if_pos ‹_›]
      exact .ended (by simp [Walk.name?, hread])
    · rw [if_neg ‹_›]
      split at hread
      · rw [if_pos ‹_›]
        cases hlow : data[w.position + 1]? with
        | none =>
          rw [byte?, hlow] at hread
          exact .ended (by rw [Walk.name?, hread]; rfl)
        | some low =>
          rw [byte?, hlow, Option.bind_some] at hread
          simp only
          split
          · rename_i hfew
            have hone : maxPointers - w.pointers = maxPointers - (w.pointers + 1) + 1 := by omega
            refine .pointer ?_ rfl hfew ?_
            · simp only [hone] at hread
              rw [Walk.name?, hone, hread, Option.map_map]
              rfl
            · simp only [left, hone, Nat.succ_mul]
              omega
          · have hnone : maxPointers - w.pointers = 0 := by omega
            rw [hnone] at hread
            exact .ended (by rw [Walk.name?, hnone, hread]; rfl)
      · rw [if_neg ‹_›]
        split at hread
        · rw [if_pos ‹_›]
          exact .ended (by rw [Walk.name?, hread]; rfl)
        · rw [if_neg ‹_›]
          cases hlabel : slice? data (w.position + 1) n.toNat with
          | none =>
            rw [hlabel] at hread
            exact .ended (by rw [Walk.name?, hread]; rfl)
          | some label =>
            rw [hlabel, Option.bind_some] at hread
            refine .label ?_ rfl ?_
            · simp [Walk.name?, hread, Function.comp_def]
            · simp only [left]
              omega

/-- **The reading ends with the name**, before more is read than is left, and follows no more than
eight pointers in all. -/
theorem endsIn (data : List UInt8) (base : Nat) {w : Walk} (hw : w.pointers ≤ maxPointers) :
    ∃ turns pointers, turns ≤ w.left data + 1 ∧ w.pointers + pointers ≤ maxPointers ∧
      w.EndsIn data base turns pointers (w.name? data base) := by
  induction hleft : w.left data using Nat.strongRecOn generalizing w with
  | ind left ih =>
    subst hleft
    cases hturn : w.turn data base with
    | ended name =>
      obtain ⟨rfl⟩ := hturn ▸ w.advances_turn data base
      exact ⟨1, 0, by omega, hw, .ended hturn⟩
    | label w' =>
      obtain ⟨⟩ | ⟨hname, hpointers, hless⟩ := hturn ▸ w.advances_turn data base
      obtain ⟨turns, pointers, hturns, hbound, hends⟩ := ih _ hless (by omega) rfl
      exact ⟨turns + 1, pointers, by omega, by omega, .label hturn (hname ▸ hends)⟩
    | pointer w' =>
      obtain ⟨⟩ | ⟨⟩ | ⟨hname, hpointers, hfew, hless⟩ := hturn ▸ w.advances_turn data base
      obtain ⟨turns, pointers, hturns, hbound, hends⟩ := ih _ hless (by omega) rfl
      exact ⟨turns + 1, pointers + 1, by omega, by omega, .pointer hturn (hname ▸ hends)⟩

end Walk

/-! ### The position behind a name -/

/-- The position behind a name is the one behind its first run. -/
theorem exists_labelRun_of_labels? {hops : Nat} {labels : List (List UInt8)}
    (hread : labels? data base hops start = some (labels, stop)) :
    ∃ run ending size, labelRun (data.drop start) = some (run, ending, size) ∧
      stop = start + size := by
  rw [labels?_run] at hread
  obtain ⟨⟨run, ending, size⟩, hrun, hread⟩ := Option.bind_eq_some_iff.1 hread
  refine ⟨run, ending, size, hrun, ?_⟩
  cases ending with
  | root => cases hread; rfl
  | pointer target =>
    cases hops with
    | zero => cases hread
    | succ hops =>
      obtain ⟨name, -, hread⟩ := Option.map_eq_some_iff.1 hread
      cases hread
      rfl

theorem exists_labelRun_of_name? {text : String} (hread : name? data base start = some (text, stop)) :
    ∃ run ending size, labelRun (data.drop start) = some (run, ending, size) ∧
      stop = start + size := by
  obtain ⟨⟨labels, stop'⟩, hlabels, h⟩ := Option.map_eq_some_iff.1 hread
  cases h
  exact exists_labelRun_of_labels? hlabels

/-- A run takes at least a byte, none that is not there, and the same with anything behind it. -/
theorem labelRun_take {bs : List UInt8} {labels : List (List UInt8)} {ending : Ending} {size : Nat}
    (hrun : labelRun bs = some (labels, ending, size)) :
    0 < size ∧ size ≤ bs.length ∧
      ∀ rest, labelRun (bs.take size ++ rest) = some (labels, ending, size) := by
  obtain ⟨hlabels, hending, rfl, hwritten⟩ := labelRun_spec hrun
  have hpos : 0 < ending.write.length := by cases ending <;> exact Nat.succ_pos _
  have htake := List.prefix_iff_eq_take.1 hwritten
  have hle := hwritten.length_le
  rw [List.length_append] at htake hle
  refine ⟨by omega, hle, fun rest ↦ ?_⟩
  rw [← htake]
  exact labelRun_append hlabels hending rest

/-- **Reading a name comes to an end and stays within the data.** Wherever it starts and wherever its
pointers lead, in circles too, the reading is over after at most nine turns for each byte and one for
the end, of which at most eight follow a pointer. The position behind a name is greater than its own
and not behind the data, and of all data in which the same bytes stand between the two, those in which
a name is read there give it the same length. -/
theorem reading_bounded (data : List UInt8) (base start : Nat) :
    (∃ turns pointers name, turns ≤ 9 * (data.length + 1) ∧ pointers ≤ 8 ∧
      Walk.EndsIn data base turns pointers { position := start } name ∧
      name? data base start = name.map fun read ↦ (nameText read.1, read.2)) ∧
    ∀ text stop, name? data base start = some (text, stop) →
      start < stop ∧ stop ≤ data.length ∧
      ∀ data' base' start' text' stop', name? data' base' start' = some (text', stop') →
        window data' start' (stop - start) = window data start (stop - start) →
        stop' - start' = stop - start := by
  have hlimit : maxPointers = 8 := rfl
  constructor
  · obtain ⟨turns, pointers, hturns, hpointers, hends⟩ :=
      Walk.endsIn data base (w := { position := start }) (Nat.zero_le _)
    refine ⟨turns, pointers, _, ?_, by omega, hends, ?_⟩
    · simp only [Walk.left, hlimit] at hturns
      omega
    · rw [Walk.name?, name?, Option.map_map]
      rfl
  · intro text stop hread
    obtain ⟨run, ending, size, hrun, rfl⟩ := exists_labelRun_of_name? hread
    obtain ⟨hpos, hle, hbytes⟩ := labelRun_take hrun
    rw [List.length_drop] at hle
    rw [Nat.add_sub_cancel_left]
    refine ⟨by omega, by omega, fun data' base' start' text' stop' hread' hsame ↦ ?_⟩
    obtain ⟨run', ending', size', hrun', rfl⟩ := exists_labelRun_of_name? hread'
    have hsplit : window data start size ++ (data'.drop start').drop size = data'.drop start' := by
      rw [← hsame, window, List.take_append_drop]
    have hrun := hbytes ((data'.drop start').drop size)
    rw [← window, hsplit, hrun'] at hrun
    cases hrun
    omega

/-- The same bytes on TCP, where they lead to another end of the name. -/
theorem reading_bounded_framed :
    let data : List UInt8 := [3, 0x77, 0x77, 0x77, 0xC0, 6, 1, 0x61, 0]
    let framed : List UInt8 := [0, 7, 3, 0x77, 0x77, 0x77, 0xC0, 6, 0]
    (name? data 0 0 = some ("www.a", 6) ∧ name? framed 2 2 = some ("www", 8) ∧
      window framed 2 (6 - 0) = window data 0 (6 - 0)) ∧
    0 < 6 ∧ 6 ≤ data.length ∧ 8 - 2 = 6 - 0 := by
  intro data framed
  have hread : name? data 0 0 = some ("www.a", 6) := by decide +kernel
  have hframed : name? framed 2 2 = some ("www", 8) := by decide +kernel
  have hsame : window framed 2 (6 - 0) = window data 0 (6 - 0) := by decide
  obtain ⟨hlt, hle, hstop⟩ := (reading_bounded data 0 0).2 _ _ hread
  exact ⟨⟨hread, hframed, hsame⟩, hlt, hle, hstop _ _ _ _ _ hframed hsame⟩

end SocketWatch.Wire.Dns
