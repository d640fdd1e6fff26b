/-!
# Named values in name order

Labels, gauges and user attributes are finite maps from names to values. `Fields` keeps the
entries strictly increasing by name, which is what the proof field says, so two such maps with
the same content are equal and listing one needs no sort. Names compare by code point, which is
also the order of their bytes.

The lookup lemmas need no order hypothesis: inserting walks past every entry that is not under
the name, whatever the order.
-/

namespace SocketWatch

universe u

variable {ν : Type u}

namespace Fields

/-! ### Operations on entry lists -/

/-- The value under a name in a list of named values. -/
def lookup (name : String) : List (String × ν) → Option ν
  | [] => none
  | (n, v) :: rest => if n = name then some v else lookup name rest

/-- Put a value under a name: replace it where it stands, else place it in order. -/
def place (name : String) (value : ν) : List (String × ν) → List (String × ν)
  | [] => [(name, value)]
  | (n, v) :: rest =>
    if n = name then (name, value) :: rest
    else if name < n then (name, value) :: (n, v) :: rest
    else (n, v) :: place name value rest

/-- Strictly increasing by name. -/
def Increasing (l : List (String × ν)) : Prop := l.Pairwise fun a b ↦ a.1 < b.1

theorem mem_place {name : String} {value : ν} {e : String × ν} {l : List (String × ν)} :
    e ∈ place name value l → e = (name, value) ∨ e ∈ l := by
  induction l with
  | nil => simp [place]
  | cons hd tl ih =>
    obtain ⟨n, v⟩ := hd
    rw [place]
    split
    · simp only [List.mem_cons]; grind
    · split <;> simp only [List.mem_cons] <;> grind

theorem increasing_place {name : String} {value : ν} {l : List (String × ν)}
    (h : Increasing l) : Increasing (place name value l) := by
  induction l with
  | nil => simp [place, Increasing]
  | cons hd tl ih =>
    obtain ⟨n, v⟩ := hd
    obtain ⟨hhd, htl⟩ := List.pairwise_cons.1 h
    rw [place]
    split
    · rename_i hn
      subst hn
      exact List.pairwise_cons.2 ⟨hhd, htl⟩
    · rename_i hn
      split
      · rename_i hlt
        refine List.pairwise_cons.2 ⟨fun e he ↦ ?_, h⟩
        rcases List.mem_cons.1 he with rfl | he
        · exact hlt
        · exact String.lt_trans hlt (hhd e he)
      · rename_i hnlt
        refine List.pairwise_cons.2 ⟨fun e he ↦ ?_, ih htl⟩
        rcases mem_place he with rfl | he
        · exact Decidable.byContradiction fun hc ↦
            hn (String.le_antisymm (String.not_lt.1 hnlt) (String.not_lt.1 hc))
        · exact hhd e he

theorem lookup_place_self (name : String) (value : ν) (l : List (String × ν)) :
    lookup name (place name value l) = some value := by
  induction l with
  | nil => simp [place, lookup]
  | cons hd tl ih =>
    obtain ⟨n, v⟩ := hd
    rw [place]
    split
    · simp [lookup]
    · rename_i hn
      split <;> simp [lookup, hn, ih]

theorem lookup_place_of_ne {name other : String} (h : name ≠ other) (value : ν)
    (l : List (String × ν)) : lookup other (place name value l) = lookup other l := by
  induction l with
  | nil => simp [place, lookup, h]
  | cons hd tl ih =>
    obtain ⟨n, v⟩ := hd
    rw [place]
    split
    · rename_i hn
      subst hn
      simp [lookup, h]
    · split
      · simp [lookup, h]
      · simp [lookup, ih]

end Fields

/-! ### The type -/

/-- Named values, strictly increasing by name. -/
structure Fields (ν : Type u) where
  /-- The named values, in name order. -/
  entries : List (String × ν)
  /-- The names increase strictly. -/
  increasing : Fields.Increasing entries

namespace Fields

instance [DecidableEq ν] : DecidableEq (Fields ν) := fun a b ↦
  decidable_of_iff (a.entries = b.entries) ⟨fun h ↦ by cases a; cases b; cases h; rfl,
    fun h ↦ h ▸ rfl⟩

/-- No named values. -/
def empty : Fields ν := ⟨[], List.Pairwise.nil⟩

instance : EmptyCollection (Fields ν) := ⟨empty⟩

instance : Inhabited (Fields ν) := ⟨empty⟩

/-- The value under a name. -/
def find? (f : Fields ν) (name : String) : Option ν := lookup name f.entries

/-- Whether a name is present. -/
def contains (f : Fields ν) (name : String) : Bool := (f.find? name).isSome

/-- Put a value under a name, replacing what was there. -/
def insert (f : Fields ν) (name : String) (value : ν) : Fields ν :=
  ⟨place name value f.entries, increasing_place f.increasing⟩

/-- The number of names. -/
def size (f : Fields ν) : Nat := f.entries.length

/-- Whether no name is present. -/
def isEmpty (f : Fields ν) : Bool := f.entries.isEmpty

/-- Every entry of `top` written over `base`. -/
def overlay (base top : Fields ν) : Fields ν :=
  top.entries.foldl (fun f e ↦ f.insert e.1 e.2) base

/-- The named values of a list; of equal names the last counts. -/
def ofList (l : List (String × ν)) : Fields ν := l.foldl (fun f e ↦ f.insert e.1 e.2) ∅

/-! ### What each operation does to `find?` -/

@[simp] theorem find?_empty (name : String) : (∅ : Fields ν).find? name = none := rfl

@[simp] theorem find?_insert_self (f : Fields ν) (name : String) (value : ν) :
    (f.insert name value).find? name = some value :=
  lookup_place_self name value f.entries

theorem find?_insert_of_ne (f : Fields ν) {name other : String} (h : name ≠ other) (value : ν) :
    (f.insert name value).find? other = f.find? other :=
  lookup_place_of_ne h value f.entries

end Fields

end SocketWatch
