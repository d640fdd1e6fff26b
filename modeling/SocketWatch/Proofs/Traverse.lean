import Mathlib.Data.List.Forall2
/-!
# Reading a list item by item

A list is read item by item where each item may be refused, and one refusal refuses the whole. What
was read then stands beside what it was read from, in the same order, and at the same position.
-/

namespace SocketWatch

universe u v w

variable {α : Type u} {β : Type v} {f : α → Option β}

theorem mapM_eq_some_iff {l : List α} {l' : List β} :
    l.mapM f = some l' ↔ List.Forall₂ (fun a b ↦ f a = some b) l l' := by
  induction l generalizing l' with
  | nil => cases l' <;> simp
  | cons a l ih =>
    rw [List.mapM_cons, List.forall₂_cons_left_iff]
    constructor
    · intro h
      obtain ⟨b, hb, h⟩ := Option.bind_eq_some_iff.1 h
      obtain ⟨rest, hrest, h⟩ := Option.bind_eq_some_iff.1 h
      exact ⟨b, rest, hb, ih.1 hrest, (Option.some.inj h).symm⟩
    · rintro ⟨b, rest, hb, hrest, rfl⟩
      show (f a).bind _ = _
      rw [hb, Option.bind_some]
      show (l.mapM f).bind _ = _
      rw [ih.2 hrest]
      rfl

/-- Where no item is refused, the list is read. -/
theorem mapM_eq_some_map {l : List α} {g : α → β} (h : ∀ a ∈ l, f a = some (g a)) :
    l.mapM f = some (l.map g) := by
  rw [mapM_eq_some_iff, List.forall₂_map_right_iff, List.forall₂_same]
  exact h

theorem exists_mem_of_forall₂ {R : α → β → Prop} {l : List α} {l' : List β}
    (h : List.Forall₂ R l l') {b : β} (hb : b ∈ l') : ∃ a ∈ l, R a b := by
  obtain ⟨i, hi, rfl⟩ := List.getElem_of_mem hb
  have hlen := h.length_eq
  exact ⟨l[i], List.getElem_mem _, h.get (by omega) hi⟩

/-- A list is read exactly where no item is refused. -/
theorem mapM_ne_none_iff {l : List α} : l.mapM f ≠ none ↔ ∀ a ∈ l, f a ≠ none := by
  constructor
  · intro h a ha
    obtain ⟨l', hl'⟩ := Option.ne_none_iff_exists'.1 h
    obtain ⟨b, -, hb⟩ := exists_mem_of_forall₂ (mapM_eq_some_iff.1 hl').flip ha
    exact Option.ne_none_iff_exists'.2 ⟨b, hb⟩
  · intro h
    induction l with
    | nil => exact Option.some_ne_none []
    | cons a l ih =>
      obtain ⟨b, hb⟩ := Option.ne_none_iff_exists'.1 (h a List.mem_cons_self)
      obtain ⟨rest, hrest⟩ := Option.ne_none_iff_exists'.1
        (ih fun a' ha' ↦ h a' (List.mem_cons_of_mem _ ha'))
      exact Option.ne_none_iff_exists'.2 ⟨b :: rest, mapM_eq_some_iff.2
        (.cons hb (mapM_eq_some_iff.1 hrest))⟩

/-- What stands beside what stands beside a list stands beside the list. -/
theorem forall₂_trans {γ : Type w} {R : α → β → Prop} {S : β → γ → Prop} {T : α → γ → Prop}
    (h : ∀ a b c, R a b → S b c → T a c) {l : List α} {l' : List β} {l'' : List γ}
    (hR : List.Forall₂ R l l') (hS : List.Forall₂ S l' l'') : List.Forall₂ T l l'' := by
  induction hR generalizing l'' with
  | nil =>
    rw [List.forall₂_nil_left_iff.1 hS]
    exact .nil
  | cons hab _ ih =>
    obtain ⟨c, rest, hbc, hrest, rfl⟩ := List.forall₂_cons_left_iff.1 hS
    exact .cons (h _ _ _ hab hbc) (ih hrest)

/-- Results that stand beside the items one by one do so all together. -/
theorem forall₂_flatten {R : α → β → Prop} {l : List α} {results : List (List β)}
    (h : List.Forall₂ (fun a bs ↦ ∃ b, bs = [b] ∧ R a b) l results) :
    List.Forall₂ R l results.flatten := by
  induction h with
  | nil => exact .nil
  | cons hab _ ih =>
    obtain ⟨b, rfl, hab⟩ := hab
    exact .cons hab ih

/-- Where every item gives one result, the results stand beside the items. -/
theorem forall₂_flatMap {R : α → β → Prop} {l : List α} {g : α → List β}
    (h : ∀ a ∈ l, ∃ b, g a = [b] ∧ R a b) : List.Forall₂ R l (l.flatMap g) := by
  rw [List.flatMap_def]
  exact forall₂_flatten (List.forall₂_map_right_iff.2 (List.forall₂_same.2 h))

theorem mem_of_mapM {l : List α} {l' : List β} (h : l.mapM f = some l') {b : β} (hb : b ∈ l') :
    ∃ a ∈ l, f a = some b :=
  exists_mem_of_forall₂ (mapM_eq_some_iff.1 h) hb

theorem getElem?_of_mapM {l : List α} {l' : List β} (h : l.mapM f = some l') {i : Nat} {a : α}
    {b : β} (ha : l[i]? = some a) (hb : l'[i]? = some b) : f a = some b := by
  obtain ⟨hi, rfl⟩ := List.getElem?_eq_some_iff.1 ha
  obtain ⟨hi', rfl⟩ := List.getElem?_eq_some_iff.1 hb
  exact (mapM_eq_some_iff.1 h).get hi hi'

/-- A list with its positions has the same items that pass a test. -/
theorem map_fst_filter_zipIdx (p : α → Bool) (l : List α) (start : Nat) :
    ((l.zipIdx start).filter fun u ↦ p u.1).map (·.1) = l.filter p := by
  have hfst := List.filter_map (f := Prod.fst) (p := p) (l := l.zipIdx start)
  rw [List.zipIdx_map_fst] at hfst
  exact hfst.symm

end SocketWatch
