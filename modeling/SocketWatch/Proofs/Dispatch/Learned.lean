import SocketWatch.Dispatch.Basic
/-!
# What a hit changes

A hit is learned from in two ways, as one of a scan or as one of the cache, and each is told here
by what it does to the three things that are kept: the positions cached for a port, the count of a
position on a port, and the counters of resolutions. What concerns other ports and other positions
stays as it was, and the lemmas say so in the same breath, because they are about every port and
every position.
-/

namespace SocketWatch

namespace PortHits

variable (h : PortHits) (i j : Nat) (port q : UInt16)

theorem count_add :
    (h.add i port).count j q = h.count j q + if (i, port) = (j, q) then 1 else 0 := by
  by_cases hk : (i, port) = (j, q)
  · obtain ⟨rfl, rfl⟩ := Prod.mk.inj hk
    simp
  · rw [if_neg hk, add, count, Table.find?_insert_of_ne _ hk]
    rfl

theorem count_reset :
    (h.reset i port).count j q = if (i, port) = (j, q) then 0 else h.count j q := by
  by_cases hk : (i, port) = (j, q)
  · obtain ⟨rfl, rfl⟩ := Prod.mk.inj hk
    simp
  · rw [if_neg hk, reset, count, Table.find?_erase_of_ne _ hk]
    rfl

end PortHits

namespace Learned

variable (l : Learned) (i j : Nat) (port q : UInt16) (isGeneric : Bool)

/-! ### The cache of a port -/

theorem cachedAt_addCached :
    (l.addCached port i).cachedAt q =
      if port = q ∧ i ∉ l.cachedAt q then l.cachedAt q ++ [i] else l.cachedAt q := by
  by_cases hq : port = q
  · subst hq
    have hfind : (l.addCached port i).cachedAt port =
        if (l.cachedAt port).contains i then l.cachedAt port else l.cachedAt port ++ [i] := by
      simp [addCached, cachedAt]
    rw [hfind]
    by_cases hi : i ∈ l.cachedAt port <;> simp [hi]
  · rw [if_neg fun h ↦ hq h.1, addCached, cachedAt, Table.find?_insert_of_ne _ hq]
    rfl

theorem cachedAt_removeCached :
    (l.removeCached port i).cachedAt q =
      if port = q then (l.cachedAt q).filter (· ≠ i) else l.cachedAt q := by
  unfold removeCached
  by_cases hq : port = q
  · subst hq
    rw [if_pos rfl]
    cases hrest : (l.cachedAt port).filter (· ≠ i) with
    | nil => simp [cachedAt]
    | cons j rest => simp [cachedAt]
  · rw [if_neg hq]
    cases (l.cachedAt port).filter (· ≠ i) with
    | nil => simp only [cachedAt, Table.find?_erase_of_ne _ hq]
    | cons j rest => simp only [cachedAt, Table.find?_insert_of_ne _ hq]

@[simp] theorem hits_addCached : (l.addCached port i).hits = l.hits := rfl

@[simp] theorem hits_removeCached : (l.removeCached port i).hits = l.hits := by
  unfold removeCached
  split <;> rfl

@[simp] theorem resolutions_addCached : (l.addCached port i).resolutions = l.resolutions := rfl

@[simp] theorem resolutions_removeCached : (l.removeCached port i).resolutions = l.resolutions := by
  unfold removeCached
  split <;> rfl

/-! ### A hit in a scan -/

theorem hits_scanned : (l.scanned port i).hits = l.hits.add i port := by
  unfold scanned
  simp only
  split <;> rfl

theorem count_scanned :
    (l.scanned port i).hits.count j q =
      l.hits.count j q + if (i, port) = (j, q) then 1 else 0 := by
  rw [hits_scanned, PortHits.count_add]

theorem resolutions_scanned :
    (l.scanned port i).resolutions =
      { l.resolutions with scanned := l.resolutions.scanned + 1 } := by
  unfold scanned
  simp only
  split <;> rfl

/-- The hit that reaches the threshold puts the position behind those cached for the port. -/
theorem cachedAt_scanned :
    (l.scanned port i).cachedAt q =
      if l.hits.count i port + 1 = cacheThreshold ∧ port = q ∧ i ∉ l.cachedAt q then
        l.cachedAt q ++ [i]
      else l.cachedAt q := by
  unfold scanned
  simp only [PortHits.count_add_self]
  by_cases ht : l.hits.count i port + 1 = cacheThreshold
  · rw [if_pos ht, cachedAt_addCached]
    simp only [ht, true_and]
    rfl
  · rw [if_neg ht, if_neg fun h ↦ ht h.1]
    rfl

/-! ### A hit in the cache -/

/-- Whether a hit in the cache drops the position: it is the generic one, and this hit reaches its
threshold. -/
def drops (l : Learned) (port : UInt16) (i : Nat) (isGeneric : Bool) : Bool :=
  isGeneric && l.hits.count i port + 1 = retryThreshold

theorem resolutions_cachedHit :
    (l.cachedHit port i isGeneric).resolutions =
      { l.resolutions with cached := l.resolutions.cached + 1 } := by
  unfold cachedHit
  cases isGeneric with
  | false => rfl
  | true =>
    simp only [if_true]
    split
    · exact resolutions_removeCached _ _ _
    · rfl

theorem hits_cachedHit :
    (l.cachedHit port i isGeneric).hits =
      if l.drops port i isGeneric then (l.hits.add i port).reset i port
      else if isGeneric then l.hits.add i port else l.hits := by
  unfold cachedHit drops
  cases isGeneric with
  | false => rfl
  | true =>
    simp only [if_true, PortHits.count_add_self, Bool.true_and, decide_eq_true_eq]
    split
    · exact hits_removeCached _ _ _
    · rfl

/-- Only the generic protocol is counted, and its count is forgotten where it is dropped. -/
theorem count_cachedHit :
    (l.cachedHit port i isGeneric).hits.count j q =
      if isGeneric = true ∧ (i, port) = (j, q) then
        if l.drops port i isGeneric then 0 else l.hits.count j q + 1
      else l.hits.count j q := by
  rw [hits_cachedHit]
  cases isGeneric with
  | false => simp [drops]
  | true =>
    by_cases hk : (i, port) = (j, q) <;> by_cases hd : l.drops port i true = true <;>
      simp only [hk, hd, PortHits.count_add, PortHits.count_reset, if_true, if_false, and_self,
        and_false, Bool.false_eq_true, Nat.add_zero]

theorem cachedAt_cachedHit :
    (l.cachedHit port i isGeneric).cachedAt q =
      if l.drops port i isGeneric = true ∧ port = q then (l.cachedAt q).filter (· ≠ i)
      else l.cachedAt q := by
  unfold cachedHit drops
  cases isGeneric with
  | false => rfl
  | true =>
    simp only [if_true, PortHits.count_add_self, Bool.true_and, decide_eq_true_eq]
    by_cases ht : l.hits.count i port + 1 = retryThreshold
    · rw [if_pos ht, cachedAt_removeCached]
      simp only [ht, true_and]
      rfl
    · rw [if_neg ht, if_neg fun h ↦ ht h.1]
      rfl

end Learned

end SocketWatch
