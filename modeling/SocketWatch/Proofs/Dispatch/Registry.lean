import Mathlib.Data.List.InsertIdx
import Mathlib.Data.List.Sigma
import SocketWatch.Dispatch.Registry
/-!
# The generic protocol stands last

A registry that is built from settings holds specific protocols, and behind them the generic one,
once. Nothing says so in the type: registering looks for the generic protocol and puts a specific
one in front of where it is found, or brings the generic one along. What the settings can choose
for a protocol is chosen by its word, and the word of the generic protocol names no parser, so the
generic protocol always takes part in scans.

Both facts together are why a scan of all protocols cannot fail. A specific protocol may be
registered more than once, but then each time in the same way (`follows_ofSettings`), so it does not
matter which of its positions is asked.
-/

namespace SocketWatch

open Wire (Protocol)

theorem Wire.Protocol.ne_generic_of_ofKey? {s : String} {p : Protocol}
    (h : Protocol.ofKey? s = some p) : p ≠ .generic := by
  have hmem : p ∈ Protocol.specific := List.mem_of_find?_eq_some h
  rintro rfl
  exact absurd hmem (by decide)

namespace Registry

variable {r : Registry}

/-- The registered protocols are specific ones and behind them the generic one, which takes part
in scans. -/
def GenericLast (r : Registry) : Prop :=
  ∃ specific g, r.entries = specific ++ [g] ∧ (∀ e ∈ specific, e.protocol ≠ .generic) ∧
    g.protocol = .generic ∧ g.discern = true

/-! ### Registering -/

theorem position?_generic {specific : List Registration} {g : Registration}
    (hr : r.entries = specific ++ [g]) (hs : ∀ e ∈ specific, e.protocol ≠ .generic)
    (hg : g.protocol = .generic) : r.position? .generic = some specific.length := by
  have hnone : specific.findIdx? (·.protocol = .generic) = none :=
    List.findIdx?_eq_none_iff.2 fun e he ↦ decide_eq_false (hs e he)
  rw [position?, hr, List.findIdx?_append, hnone]
  simp [hg]

theorem position?_generic_of_empty (hr : r.entries = []) : r.position? .generic = none := by
  simp [position?, hr]

theorem insertIdx_length_append {α : Type} (l : List α) (a b : α) :
    (l ++ [b]).insertIdx l.length a = l ++ [a, b] := by
  induction l with
  | nil => rfl
  | cons x l ih => simp [ih]

/-- A specific protocol goes in front of the generic one, and brings it along where it is
missing. -/
theorem genericLast_registerSpecific (hr : r.entries = [] ∨ r.GenericLast) {e : Registration}
    (he : e.protocol ≠ .generic) : (r.registerSpecific e).GenericLast := by
  rcases hr with hr | ⟨specific, g, hr, hs, hg, hd⟩
  · refine ⟨[e], { protocol := .generic, payloadLength := r.defaultLength }, ?_, ?_, rfl, rfl⟩
    · simp [registerSpecific, position?_generic_of_empty hr, hr]
    · intro e' he'
      rwa [List.mem_singleton.1 he']
  · refine ⟨specific ++ [e], g, ?_, ?_, hg, hd⟩
    · simp only [registerSpecific, position?_generic hr hs hg]
      rw [hr, insertIdx_length_append, List.append_assoc]
      rfl
    · intro e' he'
      rcases List.mem_append.1 he' with h | h
      · exact hs e' h
      · rwa [List.mem_singleton.1 h]

theorem genericLast_register (hr : r.entries = [] ∨ r.GenericLast) {p : Protocol}
    (hp : p ≠ .generic) (payloadLength : Option Nat) (discern : Bool) :
    (r.register p payloadLength discern).GenericLast := by
  simp only [register, if_neg hp]
  exact genericLast_registerSpecific hr hp

/-- Where nothing is registered, the generic protocol is registered alone. -/
theorem genericLast_register_of_empty (hr : r.entries = []) :
    (r.register .generic).GenericLast := by
  refine ⟨[], { protocol := .generic, payloadLength := r.defaultLength }, ?_, ?_, rfl, rfl⟩
  · simp [register, registerGeneric, position?_generic_of_empty hr, hr, positiveOr]
  · exact fun e he ↦ absurd he List.not_mem_nil

/-- A word of the settings registers a specific protocol, or none. -/
theorem genericLast_registerKey (s : NetworkSettings) (hr : r.entries = [] ∨ r.GenericLast)
    (key : String) : (registerKey s r key).entries = [] ∨ (registerKey s r key).GenericLast := by
  unfold registerKey
  cases hp : Protocol.ofKey? key with
  | none => exact hr
  | some p =>
    have hne := Protocol.ne_generic_of_ofKey? hp
    cases s.tuningOf? key with
    | none => exact .inr (genericLast_register hr hne _ _)
    | some t => exact .inr (genericLast_register hr hne _ _)

/-- **In the registry of a deployment the generic protocol stands last**, whatever the settings
name, repeat or keep out of scans. -/
theorem genericLast_ofSettings (s : NetworkSettings) : (ofSettings s).GenericLast := by
  have hfold := List.foldlRecOn (motive := fun r ↦ r.entries = [] ∨ r.GenericLast) s.protocols
    (registerKey s) (b := { defaultLength := s.payloadLimit }) (.inl rfl)
    fun r hr key _ ↦ genericLast_registerKey s hr key
  unfold ofSettings
  rcases hfold with hr | hr
  · simp only [position?_generic_of_empty hr, Option.isSome_none, Bool.false_eq_true, if_false]
    exact genericLast_register_of_empty hr
  · obtain ⟨specific, g, hentries, hs, hg, hd⟩ := hr
    simp only [position?_generic hentries hs hg, Option.isSome_some, if_true]
    exact ⟨specific, g, hentries, hs, hg, hd⟩

/-! ### Scanning -/

theorem mem_scanOrder {i : Nat} :
    i ∈ r.scanOrder ↔ ∃ e, r.get? i = some e ∧ e.discern = true := by
  simp [scanOrder, get?, List.mem_zipIdx_iff_getElem?, and_comm]

/-- A scan comes to the generic protocol. -/
theorem GenericLast.exists_scanned (hr : r.GenericLast) :
    ∃ i ∈ r.scanOrder, ∃ e, r.get? i = some e ∧ e.protocol = .generic := by
  obtain ⟨specific, g, hentries, -, hg, hd⟩ := hr
  have hget : r.get? specific.length = some g := by simp [get?, hentries]
  exact ⟨specific.length, mem_scanOrder.2 ⟨g, hget, hd⟩, g, hget, hg⟩

theorem nodup_scanOrder (r : Registry) : r.scanOrder.Nodup :=
  (List.nodup_zipIdx_map_snd r.entries).sublist (List.filter_sublist.map _)

/-- The generic protocol is registered once, and a scan comes to it last. -/
theorem GenericLast.getLast?_scanOrder (hr : r.GenericLast) {i : Nat} {e : Registration}
    (he : r.get? i = some e) (hp : e.protocol = .generic) : r.scanOrder.getLast? = some i := by
  obtain ⟨specific, g, hentries, hs, -, hd⟩ := hr
  have hi : i = specific.length := by
    rw [get?, hentries] at he
    rcases Nat.lt_or_ge i specific.length with hlt | hge
    · rw [List.getElem?_append_left hlt] at he
      exact absurd hp (hs e (List.mem_of_getElem? he))
    · have hbound := (List.getElem?_eq_some_iff.1 he).1
      rw [List.length_append, List.length_singleton] at hbound
      omega
  simp [hi, scanOrder, hentries, List.zipIdx_append, hd]

/-! ### Registering twice -/

/-- How the settings register a protocol wherever they name it. -/
def registration (s : NetworkSettings) (p : Protocol) : Registration where
  protocol := p
  payloadLength := positiveOr s.payloadLimit ((s.tuningOf? p.key).bind (·.payloadLength))
  discern := (s.tuningOf? p.key).all (!·.disableDiscern)

/-- Specific protocols are registered as the settings say. -/
def Follows (s : NetworkSettings) (r : Registry) : Prop :=
  r.defaultLength = s.payloadLimit ∧
    ∀ e ∈ r.entries, e.protocol ≠ .generic → e = registration s e.protocol

theorem registerKey_eq (s : NetworkSettings) (hr : r.defaultLength = s.payloadLimit) {key : String}
    {p : Protocol} (hp : Protocol.ofKey? key = some p) :
    registerKey s r key = r.registerSpecific (registration s p) := by
  have hne := Protocol.ne_generic_of_ofKey? hp
  obtain rfl : p.key = key := by simpa using List.find?_some hp
  cases htuning : s.tuningOf? p.key <;>
    simp [registerKey, registration, register, hp, htuning, hne, hr]

theorem follows_registerKey {s : NetworkSettings} (hr : r.Follows s) (key : String) :
    (registerKey s r key).Follows s := by
  cases hp : Protocol.ofKey? key with
  | none => simpa [registerKey, hp] using hr
  | some p =>
    rw [registerKey_eq s hr.1 hp, registerSpecific]
    split
    · refine ⟨hr.1, fun e he hne ↦ ?_⟩
      rcases List.eq_or_mem_of_mem_insertIdx he with rfl | he
      · rfl
      · exact hr.2 e he hne
    · refine ⟨hr.1, fun e he hne ↦ ?_⟩
      rcases List.mem_append.1 he with he | he
      · exact hr.2 e he hne
      · rcases List.mem_pair.1 he with rfl | rfl
        · rfl
        · exact absurd rfl hne

theorem follows_foldl_registerKey (s : NetworkSettings) :
    (s.protocols.foldl (registerKey s) { defaultLength := s.payloadLimit }).Follows s :=
  List.foldlRecOn (motive := Follows s) s.protocols (registerKey s)
    ⟨rfl, fun _ he ↦ absurd he List.not_mem_nil⟩ fun _ hr key _ ↦ follows_registerKey hr key

/-- **A protocol that is named twice is registered twice in the same way.** -/
theorem follows_ofSettings (s : NetworkSettings) : (ofSettings s).Follows s := by
  have hr := follows_foldl_registerKey s
  unfold ofSettings
  dsimp only
  split
  · exact hr
  · rename_i hnone
    have hnone : (s.protocols.foldl (registerKey s) { defaultLength := s.payloadLimit }).position?
      .generic = none := by simpa using hnone
    refine ⟨by simp [register, registerGeneric, hnone, hr.1], fun e he hne ↦ ?_⟩
    simp only [register, if_true, registerGeneric, hnone] at he
    rcases List.mem_append.1 he with he | he
    · exact hr.2 e he hne
    · rw [List.mem_singleton.1 he] at hne
      exact absurd rfl hne

end Registry

end SocketWatch
