import SocketWatch.Json.Record
import SocketWatch.Proofs.Json.Scalars
/-!
# Records of documents

A record is read member by member, and what is read of a member depends on the document that is given
for it and on nothing else. So a record is read back where each member is: `Members.Give` says which
documents are given, and an object with exactly the members of the record gives them all
(`exists_members`). In the other direction a member has no integer that the document does not have
(`every_of_find?`), whether the record is an object or a list.
-/

namespace SocketWatch

namespace Members

variable {δ α : Type} {m : Members δ} {name : String} {d : δ} {given : List (String × δ)} {a : α}
  {read : δ → Option α}

/-- The members give these documents under their names. -/
def Give (m : Members δ) (given : List (String × δ)) : Prop :=
  ∀ e ∈ given, m.find? e.1 = some e.2

theorem Give.required (h : m.Give given) (hd : (name, d) ∈ given) (hread : read d = some a) :
    m.required name read = some a := by
  rw [Members.required, h _ hd]
  exact hread

theorem Give.withDefault (h : m.Give given) (hd : (name, d) ∈ given) {default : α}
    (hread : read d = some a) : m.withDefault name default read = some a := by
  rw [Members.withDefault, h _ hd]
  exact hread

theorem Give.optional (h : m.Give given) (hd : (name, d) ∈ given) {source : Source δ}
    {o : Option α} (hread : source.nullable? read d = some o) :
    m.optional source name read = some o := by
  rw [Members.optional, h _ hd]
  exact hread

theorem find?_of_nodup (hnodup : (given.map (·.1)).Nodup) {e : String × δ} (he : e ∈ given) :
    given.find? (·.1 = e.1) = some e := by
  induction given with
  | nil => cases he
  | cons e' rest ih =>
    rw [List.map_cons, List.nodup_cons] at hnodup
    rcases List.mem_cons.1 he with rfl | he
    · exact List.find?_cons_of_pos (decide_eq_true rfl)
    · have hne : e'.1 ≠ e.1 := fun heq ↦ hnodup.1 (heq ▸ List.mem_map_of_mem he)
      rw [List.find?_cons_of_neg (by simpa using hne), ih hnodup.2 he]

end Members

namespace Json

variable {names : List String} {j : Json}

/-- **An object that has exactly the members of a record gives them all.** -/
theorem exists_members (names : List String) {ms : List (String × Json)} (hj : j = .object ms)
    (hnames : ms.map (·.1) = names) (hnodup : names.Nodup) :
    ∃ m, source.record? names j = some m ∧ m.Give ms := by
  subst hj hnames
  have hall : (ms.filter fun m ↦ (ms.map (·.1)).contains m.1) = ms :=
    List.filter_eq_self.2 fun m hm ↦ List.contains_iff_mem.2 (List.mem_map_of_mem hm)
  refine ⟨⟨ms, false⟩, ?_, fun e he ↦ ?_⟩
  · show (if ((ms.filter _).map (·.1)).Nodup then some (Members.mk (ms.filter _) false)
      else none) = _
    rw [hall, if_pos hnodup]
  · rw [Members.find?, Members.find?_of_nodup hnodup he, Option.map_some]

theorem nullable?_orNull {α : Type} {read : Json → Option α} {write : α → Json}
    (hread : ∀ a, read (write a) = some a) (hnull : ∀ a, (write a).isNull = false)
    (o : Option α) : source.nullable? read (.orNull write o) = some o := by
  cases o with
  | none => rfl
  | some a =>
    show (if (write a).isNull = true then some none else (read (write a)).map some) = _
    rw [hnull, if_neg Bool.false_ne_true, hread, Option.map_some]

theorem every_orNull {α : Type} {p : Json → Prop} (hnull : p .null) {write : α → Json}
    (h : ∀ a, Every p (write a)) (o : Option α) : Every p (.orNull write o) := by
  cases o with
  | none => exact .scalar hnull
  | some a => exact h a

/-! ### The integers of a member -/

theorem every_of_mem_list {xs : List Json} (h : Every IsHeld (.list xs)) :
    ∀ x ∈ xs, Every IsHeld x := by
  cases h with
  | scalar h => exact False.elim h
  | list h => exact h

theorem every_of_mem_object {ms : List (String × Json)} (h : Every IsHeld (.object ms)) :
    ∀ m ∈ ms, Every IsHeld m.2 := by
  cases h with
  | scalar h => exact False.elim h
  | object h => exact h

theorem every_of_mem_given (hj : Every IsHeld j) {m : Members Json}
    (hm : source.record? names j = some m) : ∀ e ∈ m.given, Every IsHeld e.2 := by
  cases j with
  | object ms =>
    have hm' : (if ((ms.filter fun m ↦ names.contains m.1).map (·.1)).Nodup then
        some (Members.mk (ms.filter fun m ↦ names.contains m.1) false) else none) = some m := hm
    split at hm'
    · cases hm'
      exact fun e he ↦ every_of_mem_object hj e (List.mem_of_mem_filter he)
    · cases hm'
  | list xs =>
    have hm' : (if true && names.length < xs.length then none
        else some (Members.mk (names.zip xs) true)) = some m := hm
    split at hm'
    · cases hm'
    · cases hm'
      exact fun e he ↦ every_of_mem_list hj e.2 (List.of_mem_zip he).2
  | null | bool | int | real | text | garbled => cases hm

/-- **A member has no integer that the record does not have.** -/
theorem every_of_find? (hj : Every IsHeld j) {m : Members Json}
    (hm : source.record? names j = some m) {name : String} {d : Json}
    (hd : m.find? name = some d) : Every IsHeld d := by
  obtain ⟨e, he, rfl⟩ := Option.map_eq_some_iff.1 hd
  exact every_of_mem_given hj hm e (List.mem_of_find?_eq_some he)

end Json

end SocketWatch
