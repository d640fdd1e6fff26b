import SocketWatch.Json.Reader
import SocketWatch.Proofs.Traverse
/-!
# The scalars of a document

A document is a tree, and what is asked of it is mostly asked of its leaves: `Every` says that all
scalars of a document have a property, however deep they stand.

The reader takes a number for an integer only if 64 bits hold it, with a sign or without
(`every_of_parse?`). A document made by hand need not keep to that, and whoever turns an integer into a
word would then wrap it.
-/

namespace SocketWatch.Json

/-- The scalars of a document, wherever they stand in it, all have a property. -/
inductive Every (p : Json → Prop) : Json → Prop
  /-- The document is a scalar. -/
  | scalar {j : Json} (h : p j) : Every p j
  /-- The document is a list. -/
  | list {xs : List Json} (h : ∀ x ∈ xs, Every p x) : Every p (.list xs)
  /-- The document is an object. -/
  | object {ms : List (String × Json)} (h : ∀ m ∈ ms, Every p m.2) : Every p (.object ms)

/-- An integer that 64 bits hold, with a sign or without. -/
def InWord (i : Int) : Prop := Word.fitsSigned 64 i = true ∨ Word.fits 64 i = true

theorem inWord_iff {i : Int} : InWord i ↔ -(Word.count 63 : Int) ≤ i ∧ i < Word.count 64 := by
  have hcount : Word.count 64 = 2 * Word.count 63 := Word.count_succ 63
  rw [InWord, Word.fitsSigned_iff, Word.fits_iff]
  omega

/-- A scalar that is no integer which 64 bits do not hold. -/
def IsHeld : Json → Prop
  | .int i => InWord i
  | .list _ | .object _ => False
  | _ => True

theorem isHeld_ofWhole (negative : Bool) (n : Nat) : IsHeld (ofWhole negative n) := by
  have hcount : Word.count 64 = 2 * Word.count 63 := Word.count_succ 63
  unfold ofWhole
  split
  · split
    · trivial
    · rename_i h
      simp only [Bool.or_eq_true, decide_eq_true_eq, not_or] at h
      exact inWord_iff.2 (by omega)
  · split
    · exact inWord_iff.2 (by omega)
    · trivial

variable {input rest : Input} {v : Json}

theorem isHeld_magnitude {negative : Bool} (h : magnitude negative input = some (v, rest)) :
    IsHeld v := by
  rw [magnitude] at h
  dsimp only at h
  split at h
  · cases h
  · obtain ⟨_, -, h⟩ := Option.bind_eq_some_iff.1 h
    obtain ⟨_, -, h⟩ := Option.bind_eq_some_iff.1 h
    obtain ⟨n, -, h⟩ := Option.bind_eq_some_iff.1 h
    cases h
    split
    · trivial
    · exact isHeld_ofWhole negative n

theorem isHeld_number (h : number input = some (v, rest)) : IsHeld v := by
  unfold number at h
  split at h <;> exact isHeld_magnitude h

theorem every_ofMembers {p : Json → Prop} (hp : p .garbled) {ms : List (Option String × Json)}
    (h : ∀ m ∈ ms, Every p m.2) : Every p (ofMembers ms) := by
  unfold ofMembers
  split
  · rename_i named hnamed
    refine .object fun m hm ↦ ?_
    obtain ⟨given, hgiven, hname⟩ := mem_of_mapM hnamed hm
    obtain ⟨name, -, rfl⟩ := Option.map_eq_some_iff.1 hname
    exact h given hgiven
  · exact .scalar hp

/-- Whatever is read in so many steps has its integers held. -/
structure ReadsHeld (steps : Nat) : Prop where
  /-- A document. -/
  value {input rest : Input} {v : Json} (h : value steps input = some (v, rest)) : Every IsHeld v
  /-- The items of a list. -/
  items {input rest : Input} {xs : List Json} (h : items steps input = some (xs, rest)) :
    ∀ x ∈ xs, Every IsHeld x
  /-- The members of an object. -/
  members {input rest : Input} {ms : List (Option String × Json)}
    (h : members steps input = some (ms, rest)) : ∀ m ∈ ms, Every IsHeld m.2

variable {steps : Nat}

theorem every_of_value (ih : ReadsHeld steps) (h : value (steps + 1) input = some (v, rest)) :
    Every IsHeld v := by
  rw [value] at h
  split at h
  · split at h
    · cases h
      exact .list nofun
    · obtain ⟨read, hread, h⟩ := Option.map_eq_some_iff.1 h
      cases h
      exact .list (ih.items hread)
  · split at h
    · cases h
      exact .object nofun
    · obtain ⟨read, hread, h⟩ := Option.map_eq_some_iff.1 h
      cases h
      exact every_ofMembers trivial (ih.members hread)
  · obtain ⟨read, -, h⟩ := Option.map_eq_some_iff.1 h
    cases h
    cases text? read.1 <;> exact .scalar trivial
  · cases h
    exact .scalar trivial
  · cases h
    exact .scalar trivial
  · cases h
    exact .scalar trivial
  · exact .scalar (isHeld_number h)

theorem every_of_items (ih : ReadsHeld steps) {xs : List Json}
    (h : items (steps + 1) input = some (xs, rest)) : ∀ x ∈ xs, Every IsHeld x := by
  rw [items] at h
  obtain ⟨read, hread, h⟩ := Option.bind_eq_some_iff.1 h
  dsimp only at h
  split at h
  · cases h
    exact List.forall_mem_singleton.2 (ih.value hread)
  · obtain ⟨others, hothers, h⟩ := Option.map_eq_some_iff.1 h
    cases h
    exact List.forall_mem_cons.2 ⟨ih.value hread, ih.items hothers⟩
  · cases h

theorem every_of_members (ih : ReadsHeld steps) {ms : List (Option String × Json)}
    (h : members (steps + 1) input = some (ms, rest)) : ∀ m ∈ ms, Every IsHeld m.2 := by
  rw [members] at h
  split at h
  · obtain ⟨name, -, h⟩ := Option.bind_eq_some_iff.1 h
    split at h
    split at h
    · obtain ⟨read, hread, h⟩ := Option.bind_eq_some_iff.1 h
      dsimp only at h
      split at h
      · cases h
        exact List.forall_mem_singleton.2 (ih.value hread)
      · obtain ⟨others, hothers, h⟩ := Option.map_eq_some_iff.1 h
        cases h
        exact List.forall_mem_cons.2 ⟨ih.value hread, ih.members hothers⟩
      · cases h
    · cases h
  · cases h

theorem readsHeld (steps : Nat) : ReadsHeld steps := by
  induction steps with
  | zero => exact ⟨nofun, nofun, nofun⟩
  | succ steps ih => exact ⟨every_of_value ih, every_of_items ih, every_of_members ih⟩

/-- **Every integer of a document that was read is held by 64 bits**, with a sign or without. -/
theorem every_of_parse? {s : String} (h : parse? s = some v) : Every IsHeld v := by
  rw [parse?, ofInput?] at h
  obtain ⟨read, hread, h⟩ := Option.bind_eq_some_iff.1 h
  dsimp only at h
  split at h
  · cases h
    exact (readsHeld _).value hread
  · cases h

end SocketWatch.Json
