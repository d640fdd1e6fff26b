/-!
# Tables: finite maps kept in order of first insertion

A table holds at most one value per key; the proof field `nodup` says so, and every operation
keeps it. Writing to a key that is present replaces its value in place, writing to a new key
appends it. Everything a client can observe goes through `find?`, which is characterised on each
operation below, and through `entries`, whose order is the order of first insertion.
-/

namespace SocketWatch

universe u v

variable {κ : Type u} {ν : Type v} [DecidableEq κ]

namespace Table

/-! ### Operations on entry lists -/

/-- The value an entry list holds for a key: that of the first entry under it. -/
def lookup (k : κ) : List (κ × ν) → Option ν
  | [] => none
  | (k', v) :: rest => if k' = k then some v else lookup k rest

/-- Replace the value of a present key in place, append a new one. -/
def write (k : κ) (v : ν) : List (κ × ν) → List (κ × ν)
  | [] => [(k, v)]
  | (k', v') :: rest => if k' = k then (k, v) :: rest else (k', v') :: write k v rest

theorem lookup_write_self (k : κ) (v : ν) (l : List (κ × ν)) :
    lookup k (write k v l) = some v := by
  induction l with
  | nil => simp [write, lookup]
  | cons e rest ih =>
    obtain ⟨k', v'⟩ := e
    by_cases h : k' = k <;> simp [write, lookup, h, ih]

theorem lookup_write_of_ne {k k' : κ} (h : k ≠ k') (v : ν) (l : List (κ × ν)) :
    lookup k' (write k v l) = lookup k' l := by
  induction l with
  | nil => simp [write, lookup, h]
  | cons e rest ih =>
    obtain ⟨a, w⟩ := e
    by_cases ha : a = k
    · subst ha; simp [write, lookup, h]
    · simp only [write, if_neg ha, lookup, ih]

theorem map_fst_write (k : κ) (v : ν) (l : List (κ × ν)) :
    (write k v l).map Prod.fst =
      if k ∈ l.map Prod.fst then l.map Prod.fst else l.map Prod.fst ++ [k] := by
  induction l with
  | nil => simp [write]
  | cons e rest ih =>
    obtain ⟨a, w⟩ := e
    by_cases ha : a = k
    · subst ha; simp [write]
    · have hk : k ≠ a := fun h ↦ ha h.symm
      simp only [write, if_neg ha, List.map_cons, ih, List.mem_cons, hk, false_or]
      split <;> simp

theorem nodup_write {k : κ} {l : List (κ × ν)} (v : ν) (h : (l.map Prod.fst).Nodup) :
    ((write k v l).map Prod.fst).Nodup := by
  rw [map_fst_write]
  split
  · exact h
  · rename_i hk
    exact List.nodup_append.2 ⟨h, by simp, by simpa using fun a b hab hak ↦ hk (by
      subst hak; exact List.mem_map.2 ⟨_, hab, rfl⟩)⟩

end Table

/-! ### The type -/

/-- A finite map from keys to values, in order of first insertion. -/
structure Table (κ : Type u) (ν : Type v) where
  /-- The entries, oldest key first. -/
  entries : List (κ × ν)
  /-- No key occurs twice. -/
  nodup : (entries.map Prod.fst).Nodup

namespace Table

instance [DecidableEq ν] : DecidableEq (Table κ ν) := fun a b ↦
  decidable_of_iff (a.entries = b.entries) ⟨fun h ↦ by cases a; cases b; cases h; rfl,
    fun h ↦ h ▸ rfl⟩

/-- The table without entries. -/
def empty : Table κ ν := ⟨[], List.nodup_nil⟩

instance : EmptyCollection (Table κ ν) := ⟨empty⟩

instance : Inhabited (Table κ ν) := ⟨empty⟩

/-- The value under a key. -/
def find? (t : Table κ ν) (k : κ) : Option ν := lookup k t.entries

/-- Whether a key is present. -/
def contains (t : Table κ ν) (k : κ) : Bool := (t.find? k).isSome

/-- Write a value under a key, replacing what was there. -/
def insert (t : Table κ ν) (k : κ) (v : ν) : Table κ ν :=
  ⟨write k v t.entries, nodup_write v t.nodup⟩

/-- Remove a key and its value. -/
def erase (t : Table κ ν) (k : κ) : Table κ ν :=
  ⟨t.entries.filter (·.1 ≠ k), t.nodup.sublist (List.filter_sublist.map _)⟩

/-- The number of entries. -/
def size (t : Table κ ν) : Nat := t.entries.length

/-- The values, oldest key first. -/
def values (t : Table κ ν) : List ν := t.entries.map Prod.snd

/-- The table of a list of entries; of equal keys the last value counts. -/
def ofList (l : List (κ × ν)) : Table κ ν := l.foldl (fun t e ↦ t.insert e.1 e.2) ∅

/-! ### What each operation does to `find?` -/

@[simp] theorem find?_empty (k : κ) : (∅ : Table κ ν).find? k = none := rfl

@[simp] theorem find?_insert_self (t : Table κ ν) (k : κ) (v : ν) :
    (t.insert k v).find? k = some v :=
  lookup_write_self k v t.entries

theorem find?_insert_of_ne (t : Table κ ν) {k k' : κ} (h : k ≠ k') (v : ν) :
    (t.insert k v).find? k' = t.find? k' :=
  lookup_write_of_ne h v t.entries

@[simp] theorem find?_erase_self (t : Table κ ν) (k : κ) : (t.erase k).find? k = none := by
  obtain ⟨l, h⟩ := t
  show lookup k (l.filter (·.1 ≠ k)) = none
  clear h
  induction l with
  | nil => rfl
  | cons e rest ih =>
    obtain ⟨a, w⟩ := e
    by_cases ha : a = k
    · simpa [List.filter_cons, ha] using ih
    · simp only [List.filter_cons, ne_eq, ha, not_false_eq_true, decide_true, if_true, lookup]
      exact ih

theorem find?_erase_of_ne (t : Table κ ν) {k k' : κ} (h : k ≠ k') :
    (t.erase k).find? k' = t.find? k' := by
  obtain ⟨l, hl⟩ := t
  show lookup k' (l.filter (·.1 ≠ k)) = lookup k' l
  clear hl
  induction l with
  | nil => rfl
  | cons e rest ih =>
    obtain ⟨a, w⟩ := e
    by_cases ha : a = k
    · subst ha
      simpa [List.filter_cons, lookup, h] using ih
    · simp only [List.filter_cons, ne_eq, ha, not_false_eq_true, decide_true, if_true, lookup, ih]

end Table

end SocketWatch
