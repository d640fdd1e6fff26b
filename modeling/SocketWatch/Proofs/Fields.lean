import SocketWatch.Attribute
/-!
# Looking up what was laid over

Records are written in layers, so what a label says is what the topmost layer says that has it
(`Fields.find?_overlay`). The names of a layer increase strictly, which is why the order in which
its entries are written does not matter. Putting one attribute is a layer of one name
(`Attributes.find?_put`); which of two names is meant is decided by comparing them, so the lemma
leaves an `if` for `simp` or `rw` to settle.
-/

namespace SocketWatch

universe u

namespace Fields

variable {ν : Type u}

theorem lookup_eq_none_of_lt {name : String} {l : List (String × ν)}
    (h : ∀ e ∈ l, name < e.1) : lookup name l = none := by
  induction l with
  | nil => rfl
  | cons e rest ih =>
    obtain ⟨n, v⟩ := e
    have hne : n ≠ name := fun heq ↦ by
      have hlt := h _ List.mem_cons_self
      rw [heq] at hlt
      exact String.lt_irrefl _ hlt
    rw [lookup, if_neg hne, ih fun e he ↦ h e (List.mem_cons_of_mem _ he)]

theorem find?_foldl_insert (name : String) {l : List (String × ν)} (hl : Increasing l)
    (base : Fields ν) :
    (l.foldl (fun f e ↦ f.insert e.1 e.2) base).find? name =
      (lookup name l).or (base.find? name) := by
  induction l generalizing base with
  | nil => rfl
  | cons e rest ih =>
    obtain ⟨n, v⟩ := e
    obtain ⟨hlt, hrest⟩ := List.pairwise_cons.1 hl
    rw [List.foldl_cons, ih hrest, lookup]
    by_cases hn : n = name
    · -- the names behind it are greater, so nothing is written over this one
      subst hn
      rw [if_pos rfl, find?_insert_self, lookup_eq_none_of_lt hlt]
      rfl
    · rw [if_neg hn, find?_insert_of_ne _ hn]

/-- **The topmost layer that has a name decides about it.** -/
theorem find?_overlay (base top : Fields ν) (name : String) :
    (base.overlay top).find? name = (top.find? name).or (base.find? name) :=
  find?_foldl_insert name top.increasing base

theorem find?_insert (f : Fields ν) (name other : String) (value : ν) :
    (f.insert name value).find? other = if name = other then some value else f.find? other := by
  split
  · rename_i h
    rw [h, find?_insert_self]
  · rename_i h
    rw [find?_insert_of_ne _ h]

/-! ### Listing -/

theorem place_perm {name : String} (value : ν) {l : List (String × ν)} (h : name ∉ l.map (·.1)) :
    (place name value l).Perm ((name, value) :: l) := by
  induction l with
  | nil => exact .refl _
  | cons e rest ih =>
    obtain ⟨n, v⟩ := e
    rw [List.map_cons, List.mem_cons, not_or] at h
    rw [place, if_neg (Ne.symm h.1)]
    split
    · exact .refl _
    · exact ((ih h.2).cons _).trans (.swap _ _ _)

theorem mem_foldl_insert {l : List (String × ν)} {base : Fields ν} {e : String × ν}
    (h : e ∈ (l.foldl (fun f e ↦ f.insert e.1 e.2) base).entries) : e ∈ l ∨ e ∈ base.entries := by
  induction l generalizing base with
  | nil => exact .inr h
  | cons e' rest ih =>
    rcases ih h with h | h
    · exact .inl (List.mem_cons_of_mem _ h)
    · rcases mem_place h with rfl | h
      · exact .inl List.mem_cons_self
      · exact .inr h

/-- Named values of which none is written over another are all there. -/
theorem foldl_insert_perm {l : List (String × ν)} {base : Fields ν}
    (h : ((l ++ base.entries).map (·.1)).Nodup) :
    (l.foldl (fun f e ↦ f.insert e.1 e.2) base).entries.Perm (l ++ base.entries) := by
  induction l generalizing base with
  | nil => exact .refl _
  | cons e rest ih =>
    obtain ⟨n, v⟩ := e
    have hplace : (rest ++ (base.insert n v).entries).Perm ((n, v) :: (rest ++ base.entries)) := by
      refine ((place_perm v fun hmem ↦ ?_).append_left rest).trans List.perm_middle
      rw [List.cons_append, List.map_cons, List.nodup_cons, List.map_append] at h
      exact h.1 (List.mem_append_right _ hmem)
    exact (ih ((hplace.map _).nodup_iff.2 h)).trans hplace

theorem nodup_names (f : Fields ν) : (f.entries.map (·.1)).Nodup := by
  refine List.pairwise_map.2 (f.increasing.imp fun {a b} hlt heq ↦ ?_)
  rw [heq] at hlt
  exact String.lt_irrefl _ hlt

theorem ext_entries {f g : Fields ν} (h : f.entries = g.entries) : f = g := by
  cases f
  cases g
  cases h
  rfl

theorem eq_of_perm {f g : Fields ν} (h : f.entries.Perm g.entries) : f = g := by
  refine ext_entries (h.eq_of_pairwise (fun _ _ _ _ hlt hgt ↦ ?_) f.increasing g.increasing)
  exact absurd (String.lt_trans hlt hgt) (String.lt_irrefl _)

/-- **In whichever order named values are listed, they are the same.** -/
theorem ofList_of_perm {f : Fields ν} {l : List (String × ν)} (h : l.Perm f.entries) :
    ofList l = f := by
  have hnil : (l ++ (∅ : Fields ν).entries).Perm l := .of_eq (List.append_nil l)
  have hnodup : ((l ++ (∅ : Fields ν).entries).map fun e ↦ e.1).Nodup :=
    ((hnil.trans h).map _).nodup_iff.2 f.nodup_names
  exact eq_of_perm ((foldl_insert_perm hnodup).trans (hnil.trans h))

theorem mem_of_mem_ofList {l : List (String × ν)} {e : String × ν} (h : e ∈ (ofList l).entries) :
    e ∈ l := by
  rcases mem_foldl_insert h with h | h
  · exact h
  · cases h

/-- A change of each value, under its name. -/
def map {μ : Type u} (change : ν → μ) (f : Fields ν) : Fields μ where
  entries := f.entries.map fun e ↦ (e.1, change e.2)
  increasing := by
    rw [Increasing, List.pairwise_map]
    exact f.increasing

theorem map_eq_self {change : ν → ν} {f : Fields ν} (h : ∀ e ∈ f.entries, change e.2 = e.2) :
    f.map change = f := by
  refine ext_entries ?_
  calc f.entries.map (fun e ↦ (e.1, change e.2))
    _ = f.entries.map id := List.map_congr_left fun e he ↦ by rw [h e he, id]
    _ = f.entries := List.map_id _

end Fields

namespace Attributes

variable (a : Attributes) (name other : String)

theorem find?_putInt (value : Int) :
    (a.putInt name value).find? other =
      if name = other then some (.int (Int64.ofInt value)) else a.find? other :=
  a.find?_insert name other _

theorem find?_putText (value : String) :
    (a.putText name value).find? other =
      if name = other then some (.text value) else a.find? other :=
  a.find?_insert name other _

theorem find?_putBool (value : Bool) :
    (a.putBool name value).find? other =
      if name = other then some (.bool value) else a.find? other :=
  a.find?_insert name other _

end Attributes

end SocketWatch
