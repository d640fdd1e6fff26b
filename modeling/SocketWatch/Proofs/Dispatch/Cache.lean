import Mathlib.Data.List.Induction
import Mathlib.Data.List.Nodup
import SocketWatch.Proofs.Dialog.Run
import SocketWatch.Proofs.Dispatch.Learned
import SocketWatch.Proofs.Dispatch.Run
/-!
# The cache of a port

A protocol is cached for a port at the hit that brings its count to one threshold, and the generic
one is dropped at the hit that brings it to another. Both are tests for equality on one count, which
scans raise for every protocol and the cache for the generic one only; a count that once went past
its threshold would never be equal to it again, and the port would stay as it is for ever.

That this does not happen rests on what a scan says about the cache: it is made where no cached
protocol recognises the dialog, so the position it finds is not cached and its count is below the
threshold, and since the generic protocol recognises everything, it is not cached either. The
invariant `Learned.Sound` is kept for these reasons (`Sound.scannedHit`, `Sound.cachedHit`).

The counts are also compared with what scans have found (`Tallies`). A specific protocol is counted
for its finds and for nothing else; of the generic one, which comes and goes, it still holds that
every find number fifty, hundred and so on puts it into the cache.
-/

namespace SocketWatch

namespace Learned

/-- What holds of all that a dispatcher can have learned. -/
structure Sound (r : Dispatcher) (l : Learned) : Prop where
  /-- No position is cached twice. -/
  nodup : ∀ port, (l.cachedAt port).Nodup
  /-- Only positions that are scanned are cached. -/
  scanned : ∀ port, ∀ i ∈ l.cachedAt port, i ∈ r.registry.scanOrder
  /-- Cached is what was hit often enough. -/
  cached_iff : ∀ port i, i ∈ l.cachedAt port ↔ cacheThreshold ≤ l.hits.count i port
  /-- A specific protocol is counted up to the threshold and no further. -/
  specific : ∀ port i, r.isGeneric i = false → l.hits.count i port ≤ cacheThreshold
  /-- The generic protocol is dropped at its threshold. -/
  generic : ∀ port i, r.isGeneric i = true → l.hits.count i port < retryThreshold
  /-- Nothing is cached behind the generic protocol. -/
  last : ∀ port, ∀ i ∈ l.cachedAt port, r.isGeneric i = true → (l.cachedAt port).getLast? = some i

variable {r : Dispatcher} {l : Learned} {port : UInt16} {i : Nat}

theorem count_fresh (i : Nat) (port : UInt16) : ({} : Learned).hits.count i port = 0 := rfl

theorem cacheThreshold_lt_retryThreshold : cacheThreshold < retryThreshold := by decide

theorem sound_fresh : Sound r {} where
  nodup _ := List.nodup_nil
  scanned _ _ hi := absurd hi List.not_mem_nil
  cached_iff port i := iff_of_false List.not_mem_nil (by rw [count_fresh]; decide)
  specific _ _ _ := Nat.zero_le _
  generic port i _ := by rw [count_fresh]; decide
  last _ _ hi := absurd hi List.not_mem_nil

theorem Sound.count_lt (hs : l.Sound r) (hi : i ∉ l.cachedAt port) :
    l.hits.count i port < cacheThreshold :=
  Nat.lt_of_not_le fun h ↦ hi ((hs.cached_iff port i).2 h)

/-- **A hit in a scan keeps what was learned sound.** A scan is made only where no cached protocol
recognises the dialog, and the generic one would: so the position that is hit is not cached yet, and
it is put behind specific ones. -/
theorem Sound.scannedHit (hs : l.Sound r) (hnew : i ∉ l.cachedAt port)
    (hi : i ∈ r.registry.scanOrder) (hspecific : ∀ j ∈ l.cachedAt port, r.isGeneric j = false) :
    (l.scanned port i).Sound r := by
  have hlt := hs.count_lt hnew
  have hthresholds := cacheThreshold_lt_retryThreshold
  refine
    { nodup := fun q ↦ ?_, scanned := fun q j hj ↦ ?_, cached_iff := fun q j ↦ ?_
      specific := fun q j hj ↦ ?_, generic := fun q j hj ↦ ?_, last := fun q j hj hg ↦ ?_ }
  · rw [cachedAt_scanned]
    split
    · rename_i h
      rw [← List.concat_eq_append]
      exact (hs.nodup q).concat h.2.2
    · exact hs.nodup q
  · rw [cachedAt_scanned] at hj
    split at hj
    · rcases List.mem_append.1 hj with hj | hj
      · exact hs.scanned q j hj
      · rwa [List.mem_singleton.1 hj]
    · exact hs.scanned q j hj
  · have hj := hs.cached_iff q j
    rw [cachedAt_scanned, count_scanned]
    grind
  · have hle := hs.specific q j hj
    rw [count_scanned]
    grind
  · have hlt' := hs.generic q j hj
    rw [count_scanned]
    grind
  · rw [cachedAt_scanned] at hj ⊢
    split
    · rename_i h
      rw [if_pos h] at hj
      obtain ⟨-, rfl, -⟩ := h
      rcases List.mem_append.1 hj with hj | hj
      · exact absurd hg (by simp [hspecific j hj])
      · rw [List.mem_singleton.1 hj, List.getLast?_concat]
    · rename_i h
      rw [if_neg h] at hj
      exact hs.last q j hj hg

/-- **A hit in the cache keeps what was learned sound.** A specific protocol is not counted there;
the generic one is, and is forgotten in the moment it is dropped. -/
theorem Sound.cachedHit (hs : l.Sound r) (hi : i ∈ l.cachedAt port) :
    (l.cachedHit port i (r.isGeneric i)).Sound r := by
  have hreached := (hs.cached_iff port i).1 hi
  refine
    { nodup := fun q ↦ ?_, scanned := fun q j hj ↦ ?_, cached_iff := fun q j ↦ ?_
      specific := fun q j hj ↦ ?_, generic := fun q j hj ↦ ?_, last := fun q j hj hg ↦ ?_ }
  · rw [cachedAt_cachedHit]
    split
    · exact (hs.nodup q).filter _
    · exact hs.nodup q
  · rw [cachedAt_cachedHit] at hj
    split at hj
    · exact hs.scanned q j (List.mem_filter.1 hj).1
    · exact hs.scanned q j hj
  · have hj := hs.cached_iff q j
    rw [cachedAt_cachedHit, count_cachedHit]
    grind [drops, cacheThreshold]
  · have hle := hs.specific q j hj
    rw [count_cachedHit]
    grind
  · have hlt := hs.generic q j hj
    rw [count_cachedHit]
    grind [drops]
  · have hlast := hs.last q j
    rw [cachedAt_cachedHit] at hj ⊢
    split
    · rename_i h
      -- what was dropped is generic, so it stood last, and nothing else that is generic did
      rw [if_pos h] at hj
      obtain ⟨hmem, hne⟩ := List.mem_filter.1 hj
      obtain ⟨hdrops, rfl⟩ := h
      have hi' : r.isGeneric i = true := (Bool.and_eq_true_iff.1 hdrops).1
      have heq : some i = some j := (hs.last port i hi hi').symm.trans (hlast hmem hg)
      exact absurd (Option.some.inj heq).symm (of_decide_eq_true hne)
    · rename_i h
      rw [if_neg h] at hj
      exact hlast hj hg

/-- What a resolution learns is sound. -/
theorem Sound.of_resolution {d : Dialog} {found : Option Nat} {l' : Learned}
    {records : List Record} (hs : l.Sound r) (h : r.Resolution l d found l' records) :
    l'.Sound r := by
  cases h with
  | bound => exact ⟨hs.nodup, hs.scanned, hs.cached_iff, hs.specific, hs.generic, hs.last⟩
  | unused => exact hs
  | cached _ _ hi => exact hs.cachedHit hi
  | scanned _ hreq hmiss hi hrec =>
    refine hs.scannedHit (fun hmem ↦ ?_) hi fun j hj ↦ ?_
    · rw [hmiss _ hmem] at hrec
      cases hrec
    · by_contra hg
      have hsome := Dispatcher.isSome_records?_of_isGeneric (by simpa using hg) hreq
      rw [hmiss j hj] at hsome
      cases hsome

end Learned

namespace Dispatcher

variable {r : Dispatcher}

/-- **All that can have been learned is sound.** -/
theorem sound_learnedAfter (hr : r.registry.GenericLast) (ds : List Dialog) :
    (r.learnedAfter ds).Sound r :=
  learnedAfter_invariant Learned.sound_fresh
    (fun l d hs ↦ hs.of_resolution (dispatch_resolution hr l d)) ds

/-! ### What scans have found -/

/-- The step of a dispatcher, with the port and the position that a scan found for output. -/
def findStep (r : Dispatcher) (l : Learned) (d : Dialog) : Learned × List (UInt16 × Nat) :=
  ((r.dispatch l d).1, (r.scanned? l d).toList.map (d.port, ·))

/-- The ports and positions that scans found for dialogs dispatched one after the other. -/
def finds (r : Dispatcher) (ds : List Dialog) : List (UInt16 × Nat) :=
  (Stepwise.run r.findStep {} ds).2

theorem finds_concat (ds : List Dialog) (d : Dialog) :
    r.finds (ds ++ [d]) =
      r.finds ds ++ (r.scanned? (r.learnedAfter ds) d).toList.map (d.port, ·) := by
  have hstep : ∀ l d, (r.findStep l d).1 = (r.dispatch l d).1 := fun _ _ ↦ rfl
  have hstate : (Stepwise.run r.findStep {} ds).1 = r.learnedAfter ds :=
    Stepwise.run_fst_congr hstep {} ds
  rw [finds, Stepwise.run_concat, hstate]
  rfl

/-- The counters follow the finds: up to the threshold a position is counted, at the threshold it is
cached, and the generic one is counted from zero again when it was dropped. -/
structure Tallies (r : Dispatcher) (l : Learned) (finds : List (UInt16 × Nat)) : Prop where
  /-- A specific protocol is counted for each find and for nothing else. -/
  specific : ∀ port i, r.isGeneric i = false → l.hits.count i port = finds.count (port, i)
  /-- A position that is cached was found a multiple of the threshold of times. -/
  cached : ∀ port, ∀ i ∈ l.cachedAt port, Learned.cacheThreshold ∣ finds.count (port, i)
  /-- A position that is not is counted from the last multiple on. -/
  uncached : ∀ port i, i ∉ l.cachedAt port →
    l.hits.count i port = finds.count (port, i) % Learned.cacheThreshold

theorem tallies_fresh : r.Tallies {} [] where
  specific _ _ _ := rfl
  cached _ _ hi := absurd hi List.not_mem_nil
  uncached _ _ _ := rfl

theorem count_concat_find (finds : List (UInt16 × Nat)) (port q : UInt16) (i j : Nat) :
    (finds ++ [(port, i)]).count (q, j) =
      finds.count (q, j) + if (i, port) = (j, q) then 1 else 0 := by
  rw [List.count_append, List.count_singleton]
  grind

theorem Tallies.scannedHit {l : Learned} {finds : List (UInt16 × Nat)} {port : UInt16} {i : Nat}
    (ht : r.Tallies l finds) (hnew : i ∉ l.cachedAt port)
    (hlt : l.hits.count i port < Learned.cacheThreshold) :
    r.Tallies (l.scanned port i) (finds ++ [(port, i)]) := by
  have hcount := ht.uncached port i hnew
  refine ⟨fun q j hj ↦ ?_, fun q j hj ↦ ?_, fun q j hj ↦ ?_⟩
  · rw [Learned.count_scanned, count_concat_find, ht.specific q j hj]
  · rw [count_concat_find]
    rw [Learned.cachedAt_scanned] at hj
    by_cases hk : (i, port) = (j, q)
    · -- the find that caches the position completes a multiple
      obtain ⟨rfl, rfl⟩ := Prod.mk.inj hk
      have hfull : l.hits.count i port + 1 = Learned.cacheThreshold := by
        by_contra hne
        exact hnew (by rwa [if_neg fun h ↦ hne h.1] at hj)
      rw [if_pos rfl]
      rw [hcount] at hfull
      simp only [Learned.cacheThreshold] at hfull ⊢
      omega
    · have hold : j ∈ l.cachedAt q := by grind
      rw [if_neg hk]
      exact ht.cached q j hold
  · have hold := ht.uncached q j
    rw [Learned.cachedAt_scanned] at hj
    rw [Learned.count_scanned, count_concat_find]
    grind [Learned.cacheThreshold]

theorem Tallies.cachedHit {l : Learned} {finds : List (UInt16 × Nat)} {port : UInt16} {i : Nat}
    (ht : r.Tallies l finds) (hi : i ∈ l.cachedAt port) :
    r.Tallies (l.cachedHit port i (r.isGeneric i)) finds := by
  refine ⟨fun q j hj ↦ ?_, fun q j hj ↦ ?_, fun q j hj ↦ ?_⟩
  · have hold := ht.specific q j hj
    rw [Learned.count_cachedHit]
    grind
  · rw [Learned.cachedAt_cachedHit] at hj
    split at hj
    · exact ht.cached q j (List.mem_filter.1 hj).1
    · exact ht.cached q j hj
  · rw [Learned.cachedAt_cachedHit] at hj
    rw [Learned.count_cachedHit]
    by_cases hmem : j ∈ l.cachedAt q
    · -- it was cached and is not any more, so this hit dropped it
      have hdrops : l.drops port i (r.isGeneric i) = true ∧ port = q := by
        by_contra hno
        exact hj (by rwa [if_neg hno])
      have hij : j = i := by
        rw [if_pos hdrops] at hj
        by_contra hne
        exact hj (List.mem_filter.2 ⟨hmem, decide_eq_true hne⟩)
      have hzero := Nat.mod_eq_zero_of_dvd (ht.cached q j hmem)
      rw [hzero, hij, hdrops.2, if_pos ⟨(Bool.and_eq_true_iff.1 hdrops.1).1, rfl⟩, ← hdrops.2,
        if_pos hdrops.1]
    · have hk : (i, port) ≠ (j, q) := fun h ↦ by
        obtain ⟨rfl, rfl⟩ := Prod.mk.inj h
        exact hmem hi
      rw [if_neg fun h ↦ hk h.2, ht.uncached q j hmem]

/-- **Counters and finds stay in step.** -/
theorem Tallies.of_resolution {l : Learned} {finds : List (UInt16 × Nat)} {d : Dialog}
    {found : Option Nat} {l' : Learned} {records : List Record} (ht : r.Tallies l finds)
    (hs : l.Sound r) (h : r.Resolution l d found l' records) :
    r.Tallies l' (finds ++ found.toList.map (d.port, ·)) := by
  cases h with
  | bound =>
    rw [Option.toList_none, List.map_nil, List.append_nil]
    exact ⟨ht.specific, ht.cached, ht.uncached⟩
  | unused =>
    rw [Option.toList_none, List.map_nil, List.append_nil]
    exact ht
  | cached _ _ hi =>
    rw [Option.toList_none, List.map_nil, List.append_nil]
    exact ht.cachedHit hi
  | scanned _ _ hmiss hi hrec =>
    have hnew : _ ∉ l.cachedAt d.port := fun hmem ↦ by
      rw [hmiss _ hmem] at hrec
      cases hrec
    exact ht.scannedHit hnew (hs.count_lt hnew)

theorem tallies_learnedAfter (hr : r.registry.GenericLast) (ds : List Dialog) :
    r.Tallies (r.learnedAfter ds) (r.finds ds) := by
  induction ds using List.reverseRecOn with
  | nil => exact tallies_fresh
  | append_singleton ds d ih =>
    rw [learnedAfter_concat, finds_concat]
    exact ih.of_resolution (sound_learnedAfter hr ds) (dispatch_resolution hr _ d)

/-! ### Scans are counted -/

/-- What a resolution does to the counter of scans. -/
theorem Resolution.scans_eq {l l' : Learned} {d : Dialog} {found : Option Nat}
    {records : List Record} (h : r.Resolution l d found l' records) :
    l'.resolutions.scanned = l.resolutions.scanned + if found.isSome then 1 else 0 := by
  cases h with
  | bound => rfl
  | unused => rfl
  | cached => rw [Learned.resolutions_cachedHit]; rfl
  | scanned => rw [Learned.resolutions_scanned]; rfl

theorem length_finds (hr : r.registry.GenericLast) (ds : List Dialog) :
    (r.finds ds).length = (r.learnedAfter ds).resolutions.scanned := by
  induction ds using List.reverseRecOn with
  | nil => rfl
  | append_singleton ds d ih =>
    rw [learnedAfter_concat, finds_concat, (dispatch_resolution hr _ d).scans_eq, ← ih,
      List.length_append, List.length_map]
    cases r.scanned? (r.learnedAfter ds) d <;> rfl

theorem learned_of_scanned? (hr : r.registry.GenericLast) {l : Learned} {d : Dialog} {i : Nat}
    (h : r.scanned? l d = some i) : (r.dispatch l d).1 = l.scanned d.port i := by
  have hres := dispatch_resolution hr l d
  rw [h] at hres
  generalize (r.dispatch l d).1 = l' at hres
  cases hres
  rfl

/-! ### A cached protocol needs no scan -/

theorem scanned?_of_cached {l : Learned} {d : Dialog} {i : Nat} (hi : i ∈ l.cachedAt d.port)
    (hrec : (r.records? d i).isSome = true) : r.scanned? l d = none := by
  have hfound : r.firstRecords? d (l.cachedAt d.port) ≠ none := fun hnone ↦ by
    rw [firstRecords?_eq_none_iff.1 hnone i hi] at hrec
    cases hrec
  rw [scanned?, if_neg]
  simp [scans, hfound]

/-- **The invariant of the adaptive cache**, for every deployment, after every list of dialogs and
on every port. What is cached is scanned, is cached once, and is exactly what was counted up to the
threshold; no count runs past its threshold; the generic protocol is cached behind all others.

The last four statements are about scans. Fifty finds put a specific protocol into the cache for
good, and every fiftieth find puts any protocol there; and while a protocol is cached, no dialog
that it recognises is scanned for. -/
theorem cache_invariant (s : NetworkSettings) (ds : List Dialog) (port : UInt16) :
    let r := Dispatcher.ofSettings s
    let l := r.learnedAfter ds
    let cached := l.cachedAt port
    cached.Nodup ∧
      (∀ i ∈ cached, i ∈ r.registry.scanOrder) ∧
      (∀ i, i ∈ cached ↔ Learned.cacheThreshold ≤ l.hits.count i port) ∧
      (∀ i, r.isGeneric i = false → l.hits.count i port ≤ Learned.cacheThreshold) ∧
      (∀ i, r.isGeneric i = true → l.hits.count i port < Learned.retryThreshold) ∧
      (∀ i ∈ cached, r.isGeneric i = true → cached.getLast? = some i) ∧
      (r.finds ds).length = l.resolutions.scanned ∧
      (∀ i, r.isGeneric i = false →
        Learned.cacheThreshold ≤ (r.finds ds).count (port, i) → i ∈ cached) ∧
      (∀ i d, r.scanned? l d = some i → d.port = port →
        (Learned.cacheThreshold ∣ (r.finds (ds ++ [d])).count (port, i) ↔
          i ∈ (r.learnedAfter (ds ++ [d])).cachedAt port)) ∧
      (∀ i ∈ cached, ∀ d, d.port = port → (r.records? d i).isSome = true →
        r.scanned? l d = none ∧
          (r.dispatch l d).1.resolutions.scanned = l.resolutions.scanned) := by
  intro r l cached
  have hr : r.registry.GenericLast := Registry.genericLast_ofSettings s
  have hs : l.Sound r := sound_learnedAfter hr ds
  have ht : r.Tallies l (r.finds ds) := tallies_learnedAfter hr ds
  refine ⟨hs.nodup port, hs.scanned port, hs.cached_iff port, hs.specific port, hs.generic port,
    hs.last port, length_finds hr ds, fun i hi hfinds ↦ ?_, fun i d hfound hport ↦ ?_,
    fun i hi d hport hrec ↦ ?_⟩
  · rw [← ht.specific port i hi] at hfinds
    exact (hs.cached_iff port i).2 hfinds
  · subst hport
    have ht' : r.Tallies (r.learnedAfter (ds ++ [d])) (r.finds (ds ++ [d])) :=
      tallies_learnedAfter hr _
    refine ⟨fun hdvd ↦ ?_, ht'.cached d.port i⟩
    -- a position that is not cached is counted by the rest, and this one was just counted
    by_contra hnot
    have hcount := ht'.uncached d.port i hnot
    rw [learnedAfter_concat, learned_of_scanned? hr hfound, Learned.count_scanned, if_pos rfl,
      Nat.mod_eq_zero_of_dvd hdvd] at hcount
    cases hcount
  · subst hport
    have hnone := scanned?_of_cached hi hrec
    have hstep := (dispatch_resolution hr l d).scans_eq
    rw [hnone] at hstep
    exact ⟨hnone, hstep⟩

/-- After fifty dialogs that nobody knows, the generic protocol is cached, alone and hence last, and
the next such dialog is not scanned for. -/
theorem cache_invariant_generic :
    let r := Dispatcher.ofSettings {}
    let d := Dialog.ofEvent .request (.sample "write" 1000) 80
    let l := r.learnedAfter (List.replicate 50 d)
    (l.cachedAt 80 = [6] ∧ r.isGeneric 6 = true ∧ d.port = 80 ∧ (r.records? d 6).isSome = true) ∧
      (l.cachedAt 80).getLast? = some 6 ∧ r.scanned? l d = none := by
  intro r d l
  have hcached : l.cachedAt 80 = [6] := by decide +kernel
  have hmem : 6 ∈ l.cachedAt 80 := hcached ▸ List.mem_singleton_self 6
  have hgeneric : r.isGeneric 6 = true := by decide +kernel
  have hport : d.port = 80 := by decide +kernel
  have hrec : (r.records? d 6).isSome = true := by decide +kernel
  have h := cache_invariant {} (List.replicate 50 d) 80
  obtain ⟨-, -, -, -, -, hlast, -, -, -, hscan⟩ := h
  exact ⟨⟨hcached, hgeneric, hport, hrec⟩, hlast 6 hmem hgeneric, (hscan 6 hmem d hport hrec).1⟩

end Dispatcher

end SocketWatch
