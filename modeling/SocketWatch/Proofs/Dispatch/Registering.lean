import SocketWatch.Proofs.Dispatch.Registry
/-!
# Registering in any order

What a registry holds after any calls, repeated ones and those of the generic protocol among them:
the specific protocols in the order of the calls, and one generic protocol behind them
(`foldl_place`). Where a specific protocol is registered depends on where the generic one stands, and
that place moves with each of them, so the induction is on calls that find the generic one last. The
first call brings it there, whatever is registered.

Registering asks of an entry only whether it is generic. So `place` says it for entries of any kind,
and a registry of protocols is one case (`entries_register`).
-/

namespace SocketWatch

open Wire (Protocol)

namespace NetworkSettings

/-- Whether a protocol is recognised on its bound ports only: the last choices made for its word
decide. -/
def disables (s : NetworkSettings) (key : String) : Bool :=
  (s.tuning.filter (·.key = key)).getLast?.any (·.disableDiscern)

theorem tuningOf?_eq_getLast? (s : NetworkSettings) (key : String) :
    s.tuningOf? key = (s.tuning.filter (·.key = key)).getLast? := by
  rw [tuningOf?, List.getLast?_filter]

end NetworkSettings

namespace Wire.Protocol

/-- The words that name a specific protocol. -/
def words : List String := specific.map key

theorem ofKey?_map_key (word : String) :
    (ofKey? word).map key = if words.contains word then some word else none := by
  cases hp : ofKey? word with
  | none =>
    have hnone : ¬ words.contains word := fun hmem ↦ by
      obtain ⟨p, hp', hkey⟩ := List.mem_map.1 (List.contains_iff_mem.1 hmem)
      exact absurd (decide_eq_true hkey) (List.find?_eq_none.1 hp p hp')
    rw [if_neg hnone, Option.map_none]
  | some p =>
    have hkey : p.key = word := by simpa using List.find?_some hp
    have hmem : words.contains word :=
      List.contains_iff_mem.2 (hkey ▸ List.mem_map_of_mem (List.mem_of_find?_eq_some hp))
    rw [if_pos hmem, Option.map_some, hkey]

/-- The specific protocols among some words, by their words. -/
theorem map_key_filterMap_ofKey? (protocols : List String) :
    (protocols.filterMap ofKey?).map key = protocols.filter words.contains := by
  rw [List.map_filterMap, ← List.filterMap_eq_filter]
  exact congrArg (fun f ↦ protocols.filterMap f) (funext ofKey?_map_key)

end Wire.Protocol

namespace Registry

variable {r : Registry}

/-! ### Entries of any kind -/

section Placing

variable {α : Type} {isGeneric : α → Bool} {generic g e : α} {specific : List α}

/-- Register an entry among others: a generic one in its place where it has one, any other in front
of the generic one, which is brought along where it is missing. -/
def place (isGeneric : α → Bool) (generic : α) (entries : List α) (e : α) : List α :=
  match entries.findIdx? isGeneric with
  | some i => if isGeneric e then entries.set i e else entries.insertIdx i e
  | none => if isGeneric e then entries ++ [e] else entries ++ [e, generic]

theorem place_nil (e : α) :
    place isGeneric generic [] e = if isGeneric e then [e] else [e, generic] := rfl

/-- Where the generic entry stands last, it is replaced there, and any other entry is put between the
specific ones and it. -/
theorem place_concat (hs : ∀ e ∈ specific, isGeneric e = false) (hg : isGeneric g = true) (e : α) :
    place isGeneric generic (specific ++ [g]) e =
      if isGeneric e then specific ++ [e] else (specific ++ [e]) ++ [g] := by
  have hfind : (specific ++ [g]).findIdx? isGeneric = some specific.length := by
    rw [List.findIdx?_append, List.findIdx?_eq_none_iff.2 hs]
    simp [hg]
  have hset : (specific ++ [g]).set specific.length e = specific ++ [e] := by simp
  simp only [place, hfind, hset, insertIdx_length_append, List.append_assoc]
  rfl

/-- Calls that find the generic entry last leave it last. -/
theorem foldl_place_concat (generic : α) (hs : ∀ e ∈ specific, isGeneric e = false) (hg : isGeneric g = true)
    (calls : List α) :
    calls.foldl (place isGeneric generic) (specific ++ [g]) =
      specific ++ calls.filter (!isGeneric ·) ++ [(calls.filter isGeneric).getLastD g] := by
  induction calls generalizing specific g with
  | nil => simp
  | cons e calls ih =>
    rw [List.foldl_cons, place_concat hs hg]
    cases he : isGeneric e with
    | true =>
      rw [if_pos rfl, ih hs he, List.filter_cons_of_pos he, List.getLastD_cons,
        List.filter_cons_of_neg (by simp [he])]
    | false =>
      have hs' : ∀ e' ∈ specific ++ [e], isGeneric e' = false := fun e' he' ↦
        (List.mem_append.1 he').elim (hs e') fun h ↦ List.mem_singleton.1 h ▸ he
      rw [if_neg (by simp), ih hs' hg]
      simp [he]

/-- **After any calls the specific entries stand in order and one generic entry behind them**: the
one that was registered last, or the one that is brought along. -/
theorem foldl_place (hgeneric : isGeneric generic = true) (calls : List α) :
    calls.foldl (place isGeneric generic) [] =
      if calls.isEmpty then [] else
        calls.filter (!isGeneric ·) ++ [(calls.filter isGeneric).getLastD generic] := by
  cases calls with
  | nil => rfl
  | cons e calls =>
    rw [List.foldl_cons, place_nil]
    cases he : isGeneric e with
    | true =>
      have hcalls := foldl_place_concat generic (List.forall_mem_nil _) he calls
      rw [if_pos rfl, ← List.nil_append [e], hcalls, List.filter_cons_of_pos he, List.getLastD_cons,
        List.filter_cons_of_neg (by simp [he])]
      rfl
    | false =>
      have hs : ∀ e' ∈ [e], isGeneric e' = false := List.forall_mem_singleton.2 he
      have hcalls := foldl_place_concat generic hs hgeneric calls
      rw [if_neg (by simp), ← List.singleton_append, hcalls]
      simp [he]

end Placing

/-! ### Protocols -/

/-- Whether a registration is that of the generic protocol. -/
def isGeneric (e : Registration) : Bool := e.protocol = .generic

/-- The generic protocol as it is brought along. -/
def fallback (limit : Nat) : Registration := { protocol := .generic, payloadLength := limit }

theorem entries_registerGeneric (r : Registry) {e : Registration} (he : isGeneric e = true) :
    (r.registerGeneric e).entries = place isGeneric (fallback r.defaultLength) r.entries e := by
  have hposition : r.position? .generic = r.entries.findIdx? isGeneric := rfl
  rw [registerGeneric, hposition, place]
  cases r.entries.findIdx? isGeneric <;> simp [he]

theorem entries_registerSpecific (r : Registry) {e : Registration} (he : isGeneric e = false) :
    (r.registerSpecific e).entries = place isGeneric (fallback r.defaultLength) r.entries e := by
  have hposition : r.position? .generic = r.entries.findIdx? isGeneric := rfl
  rw [registerSpecific, hposition, place]
  cases r.entries.findIdx? isGeneric <;> simp [he, fallback]

/-- **A registry is filled as a list of entries is.** -/
theorem entries_register (r : Registry) (p : Protocol) (payloadLength : Option Nat)
    (discern : Bool) :
    (r.register p payloadLength discern).entries =
      place isGeneric (fallback r.defaultLength) r.entries
        { protocol := p, payloadLength := positiveOr r.defaultLength payloadLength, discern } := by
  rw [register]
  split
  · exact r.entries_registerGeneric (decide_eq_true ‹_›)
  · exact r.entries_registerSpecific (decide_eq_false ‹_›)

theorem defaultLength_register (r : Registry) (p : Protocol) (payloadLength : Option Nat)
    (discern : Bool) : (r.register p payloadLength discern).defaultLength = r.defaultLength := by
  simp only [register, registerGeneric, registerSpecific]
  split <;> split <;> rfl

/-- How a protocol is registered for which nothing is chosen. -/
def plain (limit : Nat) (p : Protocol) : Registration := { protocol := p, payloadLength := limit }

/-- The registry after protocols are registered one by one. -/
def ofCalls (limit : Nat) (calls : List Protocol) : Registry :=
  calls.foldl (fun r p ↦ r.register p) { defaultLength := limit }

theorem entries_foldl_register (r : Registry) (calls : List Protocol) :
    (calls.foldl (fun r p ↦ r.register p) r).entries =
      (calls.map (plain r.defaultLength)).foldl (place isGeneric (fallback r.defaultLength))
        r.entries := by
  induction calls generalizing r with
  | nil => rfl
  | cons p calls ih =>
    rw [List.foldl_cons, ih, defaultLength_register, entries_register, List.map_cons,
      List.foldl_cons]
    rfl

/-- Whichever generic entry stands last, it is one. -/
theorem protocol_getLastD {g : Registration} (hg : g.protocol = .generic)
    (entries : List Registration) :
    ((entries.filter isGeneric).getLastD g).protocol = .generic := by
  rcases List.mem_cons.1 (List.getLastD_mem_cons (l := entries.filter isGeneric) (a := g))
    with h | h
  · rw [h, hg]
  · have hgeneric : isGeneric _ = true := List.of_mem_filter h
    exact of_decide_eq_true hgeneric

/-- The protocols that are registered after any calls. -/
theorem protocols_ofCalls (limit : Nat) (calls : List Protocol) :
    (ofCalls limit calls).entries.map (·.protocol) =
      if calls.isEmpty then [] else calls.filter (· ≠ .generic) ++ [.generic] := by
  rw [ofCalls, entries_foldl_register, foldl_place (by rfl), List.isEmpty_map]
  split
  · rfl
  · rw [List.map_append, List.filter_map, List.map_map, List.map_cons, protocol_getLastD (by rfl),
      List.map_nil]
    refine congrArg (· ++ [Protocol.generic]) ((List.map_id' _).trans ?_)
    exact List.filter_congr fun p _ ↦ decide_not.symm

/-! ### Settings -/

theorem defaultLength_registerSpecific (r : Registry) (e : Registration) :
    (r.registerSpecific e).defaultLength = r.defaultLength := by
  rw [registerSpecific]
  split <;> rfl

/-- The words of the settings that name a specific protocol register it. -/
theorem entries_foldl_registerKey (s : NetworkSettings) (hr : r.defaultLength = s.payloadLimit)
    (protocols : List String) :
    (protocols.foldl (registerKey s) r).entries =
      ((protocols.filterMap Protocol.ofKey?).map (registration s)).foldl
        (place isGeneric (fallback s.payloadLimit)) r.entries := by
  induction protocols generalizing r with
  | nil => rfl
  | cons word protocols ih =>
    rw [List.foldl_cons]
    cases hp : Protocol.ofKey? word with
    | none =>
      have hskip : registerKey s r word = r := by simp [registerKey, hp]
      rw [hskip, ih hr, List.filterMap_cons_none hp]
    | some p =>
      have hspecific : isGeneric (registration s p) = false :=
        decide_eq_false (Protocol.ne_generic_of_ofKey? hp)
      rw [registerKey_eq s hr hp, ih ((defaultLength_registerSpecific r _).trans hr),
        entries_registerSpecific r hspecific, hr, List.filterMap_cons_some hp, List.map_cons,
        List.foldl_cons]

/-- **The registry of a deployment holds the protocols of its settings in order**, each as often as it
is named, and the generic one. -/
theorem entries_ofSettings (s : NetworkSettings) :
    (ofSettings s).entries =
      (s.protocols.filterMap Protocol.ofKey?).map (registration s) ++ [fallback s.payloadLimit] := by
  have hspecific : ∀ e ∈ (s.protocols.filterMap Protocol.ofKey?).map (registration s),
      isGeneric e = false := fun e he ↦ by
    obtain ⟨p, hp, rfl⟩ := List.mem_map.1 he
    obtain ⟨word, -, hword⟩ := List.mem_filterMap.1 hp
    exact decide_eq_false (Protocol.ne_generic_of_ofKey? hword)
  have hentries := (entries_foldl_registerKey s (r := { defaultLength := s.payloadLimit }) rfl
    s.protocols).trans (foldl_place (by rfl) _)
  rw [List.filter_eq_self.2 fun e he ↦ by simp [hspecific e he],
    List.filter_eq_nil_iff.2 fun e he ↦ by simp [hspecific e he], List.getLastD_nil] at hentries
  rw [ofSettings]
  cases hnone : ((s.protocols.filterMap Protocol.ofKey?).map (registration s)).isEmpty with
  | true =>
    -- none of the words names a protocol, so the generic one is registered by itself
    rw [hnone, if_pos rfl] at hentries
    have hposition := position?_generic_of_empty hentries
    have hlength := (follows_foldl_registerKey s).1
    simp only [hposition, Option.isSome_none, Bool.false_eq_true, if_false]
    rw [entries_register, hentries, hlength, List.isEmpty_iff.1 hnone]
    rfl
  | false =>
    rw [hnone, if_neg (by simp)] at hentries
    have hposition := position?_generic hentries (fun e he ↦ of_decide_eq_false (hspecific e he)) rfl
    simp only [hposition, Option.isSome_some, if_true]
    exact hentries

/-- Which of the registered protocols are kept out of scans. -/
theorem discern_registration (s : NetworkSettings) (p : Protocol) :
    (registration s p).discern = !s.disables p.key := by
  rw [registration, NetworkSettings.disables, NetworkSettings.tuningOf?_eq_getLast?]
  cases (s.tuning.filter (·.key = p.key)).getLast? <;> rfl

theorem scanOrder_ofSettings (s : NetworkSettings) :
    (ofSettings s).scanOrder =
      ((s.protocols.filter Protocol.words.contains).zipIdx.filter
        (fun word ↦ !s.disables word.1)).map (·.2) ++
      [(s.protocols.filter Protocol.words.contains).length] := by
  rw [← Protocol.map_key_filterMap_ofKey?, scanOrder, entries_ofSettings]
  generalize s.protocols.filterMap Protocol.ofKey? = known
  have hlast : (List.zipIdx [fallback s.payloadLimit] (0 + (known.map (registration s)).length)).filter
      (·.1.discern) = [(fallback s.payloadLimit, known.length)] := by
    simp [fallback]
  rw [List.zipIdx_append, List.filter_append, hlast, List.map_append, List.zipIdx_map,
    List.zipIdx_map, List.filter_map, List.filter_map, List.map_map, List.map_map, List.length_map]
  simp only [Function.comp_def, Prod.map_fst, Prod.map_snd, id_eq, discern_registration,
    List.map_cons, List.map_nil]

/-- **The shape of a registry.** Registering puts an entry in its place among entries of any kind
(`place`), so after any calls the specific ones stand in order and one generic one behind them. The
registry of a deployment holds the specific protocols that its settings name, in order and as often as
they name them, and the generic one. A scan goes through those of them that are not kept out, and
comes to the generic one last, which no choice keeps out. -/
theorem registered_in_order :
    (∀ (r : Registry) (p : Protocol) (payloadLength : Option Nat) (discern : Bool),
      (r.register p payloadLength discern).entries =
        place isGeneric (fallback r.defaultLength) r.entries
          { protocol := p, payloadLength := positiveOr r.defaultLength payloadLength, discern }) ∧
    (∀ {α : Type} (isGeneric : α → Bool) (generic : α), isGeneric generic = true →
      ∀ calls : List α, calls.foldl (place isGeneric generic) [] =
        if calls.isEmpty then [] else
          calls.filter (!isGeneric ·) ++ [(calls.filter isGeneric).getLastD generic]) ∧
    (∀ (limit : Nat) (calls : List Protocol),
      (ofCalls limit calls).entries.map (·.protocol) =
        if calls.isEmpty then [] else calls.filter (· ≠ .generic) ++ [.generic]) ∧
    ∀ s : NetworkSettings,
      let named := s.protocols.filter Protocol.words.contains
      (ofSettings s).entries.map (·.protocol.key) = named ++ [Protocol.generic.key] ∧
        (ofSettings s).scanOrder =
          (named.zipIdx.filter (fun word ↦ !s.disables word.1)).map (·.2) ++ [named.length] := by
  refine ⟨entries_register, fun isGeneric generic hgeneric calls ↦ foldl_place hgeneric calls,
    protocols_ofCalls, fun s ↦ ⟨?_, scanOrder_ofSettings s⟩⟩
  rw [entries_ofSettings, List.map_append, List.map_map, ← Protocol.map_key_filterMap_ofKey?]
  rfl

/-- Entries may be words. Of the settings of a deployment the last choices for MySQL count, an unknown
word is skipped, and the generic protocol is scanned although it is to be kept out. -/
theorem registered_in_order_words :
    let isGeneric : String → Bool := fun word ↦ word = "generic"
    let s : NetworkSettings :=
      { protocols := ["mysql", "grpc", "http", "mysql"]
        tuning := [{ key := "mysql", disableDiscern := true }, { key := "mysql" },
          { key := "http", disableDiscern := true }, { key := "generic", disableDiscern := true }] }
    (isGeneric "generic" = true ∧
      ["grpc", "generic", "http", "generic", "grpc"].foldl (place isGeneric "generic") [] =
        ["grpc", "http", "grpc", "generic"]) ∧
    (ofSettings s).entries.map (·.protocol.key) = ["mysql", "http", "mysql", "generic"] ∧
      (ofSettings s).scanOrder = [0, 2, 3] := by
  refine ⟨⟨by decide, (registered_in_order.2.1 _ "generic" (by decide) _).trans (by decide)⟩,
    (registered_in_order.2.2.2 _).1.trans (by decide), (registered_in_order.2.2.2 _).2.trans ?_⟩
  decide

end Registry

end SocketWatch
