import SocketWatch.Table
import Mathlib.Algebra.BigOperators.Group.List.Basic
import Mathlib.Algebra.Ring.Int.Defs
/-!
# Entries, look-ups and sums of a table

A table is observed through `find?`, but counters and sums run over its entries. Since no key
occurs twice, the two views determine each other (`find?_eq_some_iff`), and a write changes a sum
over the entries by exactly what was and what is under its key (`total_insert`). Erasing a key
forgets what was written under it before (`erase_insert`). No order of the entries is used
anywhere.
-/

namespace SocketWatch.Table

universe u v

variable {κ : Type u} {ν : Type v} [DecidableEq κ]

/-! ### Entries and look-ups -/

theorem lookup_eq_some_iff {l : List (κ × ν)} (hl : (l.map Prod.fst).Nodup) {k : κ} {v : ν} :
    lookup k l = some v ↔ (k, v) ∈ l := by
  induction l with
  | nil => simp [lookup]
  | cons e rest ih =>
    obtain ⟨a, w⟩ := e
    rw [List.map_cons, List.nodup_cons] at hl
    by_cases ha : a = k
    · subst ha
      have hnot : (a, v) ∉ rest := fun h ↦ hl.1 (List.mem_map.2 ⟨_, h, rfl⟩)
      simp [lookup, hnot, eq_comm]
    · have hk : k ≠ a := Ne.symm ha
      simp [lookup, ha, hk, ih hl.2]

/-- **Looking up is membership**, because keys do not repeat. -/
theorem find?_eq_some_iff (t : Table κ ν) {k : κ} {v : ν} :
    t.find? k = some v ↔ (k, v) ∈ t.entries :=
  lookup_eq_some_iff t.nodup

omit [DecidableEq κ] in
theorem eq_of_entries {t t' : Table κ ν} (h : t.entries = t'.entries) : t = t' := by
  cases t
  cases t'
  cases h
  rfl

theorem filter_key_of_nodup {l : List (κ × ν)} (hl : (l.map Prod.fst).Nodup) (k : κ) :
    l.filter (·.1 = k) = (lookup k l).toList.map (k, ·) := by
  induction l with
  | nil => rfl
  | cons e rest ih =>
    obtain ⟨a, w⟩ := e
    rw [List.map_cons, List.nodup_cons] at hl
    by_cases ha : a = k
    · subst ha
      have hrest : rest.filter (·.1 = a) = [] := by
        rw [List.filter_eq_nil_iff]
        intro x hx hxa
        exact hl.1 (List.mem_map.2 ⟨x, hx, of_decide_eq_true hxa⟩)
      simp [lookup, hrest]
    · simp [lookup, ha, ih hl.2]

/-- The entries under a key are what a look-up finds. -/
theorem entries_filter_key (t : Table κ ν) (k : κ) :
    t.entries.filter (·.1 = k) = (t.find? k).toList.map (k, ·) :=
  filter_key_of_nodup t.nodup k

/-- A table with one key has one entry. -/
theorem entries_eq_singleton {t : Table κ ν} {k : κ} {v : ν} (hk : t.find? k = some v)
    (hother : ∀ k', k' ≠ k → t.find? k' = none) : t.entries = [(k, v)] := by
  have hall : t.entries.filter (·.1 = k) = t.entries := List.filter_eq_self.2 fun e he ↦ by
    have hfind : t.find? e.1 = some e.2 := t.find?_eq_some_iff.2 he
    by_contra hne
    rw [hother e.1 (by simpa using hne)] at hfind
    cases hfind
  rw [← hall, entries_filter_key, hk]
  rfl

/-! ### Writing what is there, and erasing what was written -/

theorem write_of_lookup {l : List (κ × ν)} {k : κ} {v : ν} (h : lookup k l = some v) :
    write k v l = l := by
  induction l with
  | nil => cases h
  | cons e rest ih =>
    obtain ⟨a, w⟩ := e
    by_cases ha : a = k
    · subst ha
      have hw : w = v := by simpa [lookup] using h
      simp [write, hw]
    · simp only [lookup, if_neg ha] at h
      simp only [write, if_neg ha, ih h]

theorem insert_of_find? {t : Table κ ν} {k : κ} {v : ν} (h : t.find? k = some v) :
    t.insert k v = t :=
  eq_of_entries (write_of_lookup h)

theorem filter_ne_write (k : κ) (v : ν) (l : List (κ × ν)) :
    (write k v l).filter (·.1 ≠ k) = l.filter (·.1 ≠ k) := by
  induction l with
  | nil => simp [write]
  | cons e rest ih =>
    obtain ⟨a, w⟩ := e
    by_cases ha : a = k
    · subst ha
      simp [write]
    · simp only [write, if_neg ha, List.filter_cons, ih]

theorem erase_insert (t : Table κ ν) (k : κ) (v : ν) : (t.insert k v).erase k = t.erase k :=
  eq_of_entries (filter_ne_write k v t.entries)

/-! ### Sums over the entries -/

/-- The sum of a weight over the entries. -/
def total (f : κ → ν → Int) (t : Table κ ν) : Int := (t.entries.map fun e ↦ f e.1 e.2).sum

/-- How many keys have a property. -/
def countKeys (p : κ → Bool) (t : Table κ ν) : Nat := t.entries.countP (p ·.1)

variable (f : κ → ν → Int) (p : κ → Bool)

theorem sum_write (k : κ) (v : ν) (l : List (κ × ν)) :
    ((write k v l).map fun e ↦ f e.1 e.2).sum + (lookup k l).elim 0 (f k) =
      (l.map fun e ↦ f e.1 e.2).sum + f k v := by
  induction l with
  | nil => simp [write, lookup]
  | cons e rest ih =>
    obtain ⟨a, w⟩ := e
    by_cases ha : a = k
    · subst ha
      simp only [write, lookup, if_true, List.map_cons, List.sum_cons, Option.elim_some]
      omega
    · simp only [write, lookup, if_neg ha, List.map_cons, List.sum_cons]
      omega

/-- **A write exchanges one summand.** -/
theorem total_insert (t : Table κ ν) (k : κ) (v : ν) :
    (t.insert k v).total f + (t.find? k).elim 0 (f k) = t.total f + f k v :=
  sum_write f k v t.entries

omit [DecidableEq κ] in
theorem countKeys_eq_total (t : Table κ ν) :
    (t.countKeys p : Int) = t.total fun k _ ↦ if p k then 1 else 0 := by
  show ((t.entries.countP (p ·.1) : Nat) : Int) = _
  unfold total
  induction t.entries with
  | nil => rfl
  | cons e rest ih =>
    rw [List.countP_cons, List.map_cons, List.sum_cons, ← ih]
    by_cases hp : p e.1 <;> simp [hp, Int.add_comm]

/-- **A write counts a key that was absent.** -/
theorem countKeys_insert (t : Table κ ν) (k : κ) (v : ν) :
    (t.insert k v).countKeys p =
      t.countKeys p + if (t.find? k).isNone && p k then 1 else 0 := by
  have h := total_insert (fun k _ ↦ if p k then 1 else 0) t k v
  rw [← countKeys_eq_total, ← countKeys_eq_total] at h
  cases hk : t.find? k with
  | none =>
    rw [hk, Option.elim_none] at h
    rw [Option.isNone_none, Bool.true_and]
    by_cases hp : p k = true
    · rw [if_pos hp] at h ⊢
      omega
    · rw [if_neg hp] at h ⊢
      omega
  | some w =>
    rw [hk, Option.elim_some] at h
    rw [Option.isNone_some, Bool.false_and, if_neg Bool.false_ne_true]
    omega

omit [DecidableEq κ] in
/-- Every key has the property or has not. -/
theorem countKeys_add_countKeys_not (t : Table κ ν) :
    t.countKeys p + t.countKeys (fun k ↦ !p k) = t.size := by
  have h := List.length_eq_countP_add_countP (p ·.1) (l := t.entries)
  simpa [countKeys, size] using h.symm

end SocketWatch.Table
