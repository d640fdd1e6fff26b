import Mathlib.Data.List.Nodup
import SocketWatch.Proofs.Dispatch.Cache
import SocketWatch.Proofs.Dispatch.Outcome
/-!
# Which protocol answers

On a port that is bound to no protocol, the cached protocols and then the scanned ones are asked in
turn, and the first that recognises a dialog answers for it (`answering?`). What was learned comes
in by the order of the cached ones alone, and the records do not depend on anything else that was
learned (`dispatch_spec`).

So the cache can do two things to a dialog. It can put one protocol that recognises the dialog
before another one; and it can put the generic protocol, which recognises every dialog, before
protocols that are not cached. Where only one specific protocol recognises the dialog, the first of
these cannot be seen, and `dispatch_choice` says that the second is all there is.
-/

namespace SocketWatch

open Wire (Protocol)

theorem Wire.Protocol.key_injective : Function.Injective Protocol.key := by
  intro p q h
  cases p <;> cases q <;> first | rfl | exact absurd h (by decide)

/-- Where the last item of a list is the first that passes a test, no other item passes it. -/
theorem eq_of_find?_of_getLast? {α : Type} {p : α → Bool} {l : List α} {a b : α} (hl : l.Nodup)
    (hlast : l.getLast? = some a) (hfound : l.find? p = some a) (hb : b ∈ l) (hp : p b = true) :
    b = a := by
  obtain ⟨front, rfl⟩ := List.getLast?_eq_some_iff.1 hlast
  have ha : a ∉ front := fun h ↦ (List.nodup_append.1 hl).2.2 a h a (List.mem_singleton_self a) rfl
  have hfront : front.find? p = none := by
    cases h : front.find? p with
    | none => rfl
    | some c =>
      rw [List.find?_append, h, Option.some_or] at hfound
      exact absurd (Option.some.inj hfound ▸ List.mem_of_find?_eq_some h) ha
  rcases List.mem_append.1 hb with hb | hb
  · exact absurd hp (List.find?_eq_none.1 hfront b hb)
  · exact List.mem_singleton.1 hb

namespace Dispatcher

variable {r : Dispatcher} {l : Learned} {d : Dialog}

/-! ### The first that recognises a dialog -/

/-- Whether the protocol at a position recognises a dialog. -/
def recognises (r : Dispatcher) (d : Dialog) (i : Nat) : Bool := (r.records? d i).isSome

/-- The position that answers for a dialog with a request on a port that is not bound. -/
def answering? (r : Dispatcher) (l : Learned) (d : Dialog) : Option Nat :=
  if (r.settings.boundProtocol? d.port).isNone && d.has .request then
    (l.cachedAt d.port ++ r.registry.scanOrder).find? (r.recognises d)
  else none

/-- The records of a dialog for which no protocol has to be found. -/
def unaskedRecords (r : Dispatcher) (d : Dialog) : List Record :=
  match r.settings.boundProtocol? d.port with
  | some key => r.boundRecords d key
  | none => (d.connectRecord? Protocol.generic.key).toList

theorem isGeneric_iff {i : Nat} :
    r.isGeneric i = true ↔ ∃ e, r.registry.get? i = some e ∧ e.protocol = .generic := by
  simp [isGeneric, Option.any_eq_true]

theorem firstRecords?_eq (positions : List Nat) :
    r.firstRecords? d positions =
      (positions.find? (r.recognises d)).bind fun i ↦ (r.records? d i).map fun rs ↦ (i, rs) := by
  induction positions with
  | nil => rfl
  | cons i positions ih =>
    rw [firstRecords?, List.findSome?_cons, List.find?_cons, recognises]
    cases h : r.records? d i with
    | none => exact ih
    | some rs => simp [h]

theorem recognises_of_isGeneric {i : Nat} (hi : r.isGeneric i = true)
    (hreq : d.has .request = true) : r.recognises d i = true :=
  isSome_records?_of_isGeneric hi hreq

theorem exists_records_of_find? {positions : List Nat} {i : Nat}
    (h : positions.find? (r.recognises d) = some i) : ∃ records, r.records? d i = some records := by
  have hi : r.recognises d i = true := List.find?_some h
  exact Option.isSome_iff_exists.1 hi

/-- The position that answers is the first cached one that recognises the dialog, else the first
scanned one. -/
theorem answering?_eq_some_iff {i : Nat} :
    r.answering? l d = some i ↔
      r.settings.boundProtocol? d.port = none ∧ d.has .request = true ∧
        ((l.cachedAt d.port).find? (r.recognises d) = some i ∨
          (l.cachedAt d.port).find? (r.recognises d) = none ∧
            r.registry.scanOrder.find? (r.recognises d) = some i) := by
  unfold answering?
  cases r.settings.boundProtocol? d.port <;> cases d.has .request <;>
    simp [List.find?_append, Option.or_eq_some_iff]

/-- A protocol answers for every dialog with a request on a port that is not bound. -/
theorem answering?_ne_none (hr : r.registry.GenericLast)
    (hport : r.settings.boundProtocol? d.port = none) (hreq : d.has .request = true) :
    r.answering? l d ≠ none := by
  obtain ⟨g, hg, hgeneric⟩ := hr.exists_scanned
  intro hnone
  rw [answering?, hport, hreq] at hnone
  exact List.find?_eq_none.1 hnone g (List.mem_append_right _ hg)
    (recognises_of_isGeneric (isGeneric_iff.2 hgeneric) hreq)

/-- What a dispatch does, and what is learned from it, by the position that answers. -/
inductive Choice (r : Dispatcher) (l : Learned) (d : Dialog) : Option Nat → Learned → Prop where
  /-- No protocol has to be found. What is counted then is not asked for again. -/
  | unasked {l' : Learned} (hcached : ∀ port, l'.cachedAt port = l.cachedAt port)
      (hhits : l'.hits = l.hits) : Choice r l d none l'
  /-- A cached protocol answers. -/
  | cached {i : Nat} (hport : r.settings.boundProtocol? d.port = none)
      (hreq : d.has .request = true)
      (hi : (l.cachedAt d.port).find? (r.recognises d) = some i) :
    Choice r l d (some i) (l.cachedHit d.port i (r.isGeneric i))
  /-- No cached protocol recognises the dialog, and another one answers. -/
  | scanned {i : Nat} (hport : r.settings.boundProtocol? d.port = none)
      (hreq : d.has .request = true)
      (hmiss : (l.cachedAt d.port).find? (r.recognises d) = none)
      (hi : r.registry.scanOrder.find? (r.recognises d) = some i) :
    Choice r l d (some i) (l.scanned d.port i)

/-- **A dispatch follows the choice of the position that answers.** -/
theorem dispatch_spec (hr : r.registry.GenericLast) (l : Learned) (d : Dialog) :
    r.Choice l d (r.answering? l d) (r.dispatch l d).1 ∧
      (r.dispatch l d).2 =
        (r.answering? l d).elim (r.unaskedRecords d) fun i ↦ (r.records? d i).getD [] := by
  cases hanswer : r.answering? l d with
  | none =>
    cases hport : r.settings.boundProtocol? d.port with
    | some key =>
      rw [dispatch_of_bound hport]
      exact ⟨.unasked (fun _ ↦ rfl) rfl, by simp [unaskedRecords, hport]⟩
    | none =>
      have hreq : d.has .request = false := by
        by_contra hreq
        exact answering?_ne_none hr hport (by simpa using hreq) hanswer
      simp only [dispatch, unaskedRecords, hport, hreq, Bool.not_false, if_true]
      exact ⟨.unasked (fun _ ↦ rfl) rfl, rfl⟩
  | some i =>
    obtain ⟨hport, hreq, hfound⟩ := answering?_eq_some_iff.1 hanswer
    simp only [dispatch, hport, hreq, Bool.not_true, Bool.false_eq_true, if_false, firstRecords?_eq]
    rcases hfound with hcached | ⟨hmiss, hscan⟩
    · obtain ⟨records, hrec⟩ := exists_records_of_find? hcached
      simp only [hcached, Option.bind_some, hrec, Option.map_some]
      exact ⟨.cached hport hreq hcached, by simp [hrec]⟩
    · obtain ⟨records, hrec⟩ := exists_records_of_find? hscan
      simp only [hmiss, hscan, Option.bind_none, Option.bind_some, hrec, Option.map_some]
      exact ⟨.scanned hport hreq hmiss hscan, by simp [hrec]⟩

/-! ### Asking a protocol by its name -/

/-- The records of a dialog if a registered protocol recognises it. -/
def recordsBy? (r : Dispatcher) (p : Protocol) (d : Dialog) : Option (List Record) :=
  (r.registry.position? p).bind (r.records? d)

/-- Whether a protocol takes part in scans and recognises a dialog. -/
def Discerns (r : Dispatcher) (p : Protocol) (d : Dialog) : Prop :=
  ∃ i ∈ r.registry.scanOrder, (r.registry.get? i).map (·.protocol) = some p ∧
    r.recognises d i = true

instance (p : Protocol) : Decidable (r.Discerns p d) :=
  inferInstanceAs (Decidable (∃ i ∈ r.registry.scanOrder, _))

/-- A protocol is registered at its first position as it is at any other. -/
theorem exists_position?_of_get? (s : NetworkSettings) {i : Nat} {e : Registration}
    (he : (ofSettings s).registry.get? i = some e) :
    ∃ k, (ofSettings s).registry.position? e.protocol = some k ∧
      (ofSettings s).registry.get? k = some e := by
  have hr : (ofSettings s).registry.GenericLast := Registry.genericLast_ofSettings s
  have hmem : e ∈ (ofSettings s).registry.entries := List.mem_of_getElem? he
  cases hk : (ofSettings s).registry.position? e.protocol with
  | none => exact absurd (List.findIdx?_eq_none_iff.1 hk e hmem) (by simp)
  | some k =>
    obtain ⟨hlt, hp, -⟩ := List.findIdx?_eq_some_iff_getElem.1 hk
    have hp : (ofSettings s).registry.entries[k].protocol = e.protocol := of_decide_eq_true hp
    have hget : (ofSettings s).registry.get? k = some (ofSettings s).registry.entries[k] :=
      List.getElem?_eq_getElem hlt
    refine ⟨k, rfl, ?_⟩
    by_cases hg : e.protocol = .generic
    · -- the generic protocol has one position, the last one
      have hlast := hr.getLast?_scanOrder he hg
      rw [hr.getLast?_scanOrder hget (hp.trans hg)] at hlast
      rw [Option.some.inj hlast, he]
    · have hfollows := (Registry.follows_ofSettings s).2
      rw [hget, hfollows e hmem hg, hfollows _ (List.getElem_mem hlt) (hp ▸ hg), hp]

/-- It does not matter at which of its positions a protocol is asked. -/
theorem recordsBy?_of_get? (s : NetworkSettings) {i : Nat} {e : Registration}
    (he : (ofSettings s).registry.get? i = some e) :
    (ofSettings s).recordsBy? e.protocol d = (ofSettings s).records? d i := by
  obtain ⟨k, hk, hget⟩ := exists_position?_of_get? s he
  rw [recordsBy?, hk, Option.bind_some]
  simp only [records?, hget, he]

theorem mem_cachedProtocols {port : UInt16} {p : Protocol} :
    p.key ∈ r.cachedProtocols l port ↔
      ∃ i ∈ l.cachedAt port, ∃ e, r.registry.get? i = some e ∧ e.protocol = p := by
  simp only [cachedProtocols, List.mem_filterMap, Option.map_eq_some_iff,
    Protocol.key_injective.eq_iff]

/-! ### Who answers -/

/-- Whichever way it is found, the protocol that answers takes part in scans. -/
theorem mem_scanOrder_of_answering? {i : Nat} (hl : l.Sound r) (h : r.answering? l d = some i) :
    i ∈ r.registry.scanOrder ∧ r.recognises d i = true := by
  obtain ⟨-, -, hfound | ⟨-, hfound⟩⟩ := answering?_eq_some_iff.1 h
  · exact ⟨hl.scanned _ i (List.mem_of_find?_eq_some hfound), List.find?_some hfound⟩
  · exact ⟨List.mem_of_find?_eq_some hfound, List.find?_some hfound⟩

/-- **Where the generic protocol answers** although another one would recognise the dialog, it is
cached and the other one is not. -/
theorem cached_of_isGeneric (hr : r.registry.GenericLast) (hl : l.Sound r) {i j : Nat}
    (h : r.answering? l d = some i) (hi : r.isGeneric i = true) (hne : j ≠ i)
    (hj : j ∈ r.registry.scanOrder) (hrec : r.recognises d j = true) :
    i ∈ l.cachedAt d.port ∧ j ∉ l.cachedAt d.port := by
  obtain ⟨-, -, hfound | ⟨-, hfound⟩⟩ := answering?_eq_some_iff.1 h
  · have hmem := List.mem_of_find?_eq_some hfound
    refine ⟨hmem, fun hcached ↦ hne ?_⟩
    exact eq_of_find?_of_getLast? (hl.nodup d.port) (hl.last d.port i hmem hi) hfound hcached hrec
  · obtain ⟨e, he, hp⟩ := isGeneric_iff.1 hi
    have hlast := hr.getLast?_scanOrder he hp
    exact absurd (eq_of_find?_of_getLast? r.registry.nodup_scanOrder hlast hfound hj hrec) hne

/-- Where the generic protocol is cached, only what is cached answers. -/
theorem mem_cachedAt_of_answering? {i g : Nat} (h : r.answering? l d = some i)
    (hg : r.isGeneric g = true) (hmem : g ∈ l.cachedAt d.port) : i ∈ l.cachedAt d.port := by
  obtain ⟨-, hreq, hfound | ⟨hmiss, -⟩⟩ := answering?_eq_some_iff.1 h
  · exact List.mem_of_find?_eq_some hfound
  · exact absurd (recognises_of_isGeneric hg hreq) (List.find?_eq_none.1 hmiss g hmem)

/-- Whether it is a registration of a protocol that answers for a dialog. -/
def Answers (r : Dispatcher) (l : Learned) (d : Dialog) (p : Protocol) : Prop :=
  ∃ i e, r.answering? l d = some i ∧ r.registry.get? i = some e ∧ e.protocol = p

theorem exists_answers (hr : r.registry.GenericLast) (hl : l.Sound r)
    (hport : r.settings.boundProtocol? d.port = none) (hreq : d.has .request = true) :
    ∃ p, r.Answers l d p := by
  obtain ⟨i, hi⟩ := Option.ne_none_iff_exists'.1 (answering?_ne_none (l := l) hr hport hreq)
  obtain ⟨e, he, -⟩ := Registry.mem_scanOrder.1 (mem_scanOrder_of_answering? hl hi).1
  exact ⟨e.protocol, i, e, hi, he, rfl⟩

theorem Answers.discerns {p : Protocol} (hl : l.Sound r) (h : r.Answers l d p) :
    r.Discerns p d := by
  obtain ⟨i, e, hi, he, rfl⟩ := h
  obtain ⟨hscan, hrec⟩ := mem_scanOrder_of_answering? hl hi
  exact ⟨i, hscan, by rw [he]; rfl, hrec⟩

/-- **The records of a dispatch are those of the protocol that answers.** -/
theorem Answers.recordsBy? (s : NetworkSettings) {p : Protocol} (hl : l.Sound (ofSettings s))
    (h : (ofSettings s).Answers l d p) :
    (ofSettings s).recordsBy? p d = some ((ofSettings s).dispatch l d).2 := by
  obtain ⟨i, e, hi, he, rfl⟩ := h
  obtain ⟨records, hrec⟩ := Option.isSome_iff_exists.1 (mem_scanOrder_of_answering? hl hi).2
  have hr : (ofSettings s).registry.GenericLast := Registry.genericLast_ofSettings s
  have hrecords := (dispatch_spec hr l d).2
  rw [hi, Option.elim_some, hrec, Option.getD_some] at hrecords
  rw [recordsBy?_of_get? s he, hrec, hrecords]

/-- Where the generic protocol is cached and another one answers, that one is cached too. -/
theorem Answers.mem_cachedProtocols {p : Protocol} (h : r.Answers l d p)
    (hmem : Protocol.generic.key ∈ r.cachedProtocols l d.port) :
    p.key ∈ r.cachedProtocols l d.port := by
  obtain ⟨i, e, hi, he, hp⟩ := h
  obtain ⟨g, hg, f, hf, hfp⟩ := Dispatcher.mem_cachedProtocols.1 hmem
  have hgeneric : r.isGeneric g = true := isGeneric_iff.2 ⟨f, hf, hfp⟩
  exact Dispatcher.mem_cachedProtocols.2 ⟨i, mem_cachedAt_of_answering? hi hgeneric hg, e, he, hp⟩

/-- **Where the generic protocol answers** for a dialog that a specific one discerns, the generic
one is cached and the specific one is not, at any of its positions. -/
theorem Answers.cached_of_generic (s : NetworkSettings) {p : Protocol}
    (hl : l.Sound (ofSettings s)) (h : (ofSettings s).Answers l d .generic) (hp : p ≠ .generic)
    (hdiscerns : (ofSettings s).Discerns p d) :
    Protocol.generic.key ∈ (ofSettings s).cachedProtocols l d.port ∧
      p.key ∉ (ofSettings s).cachedProtocols l d.port := by
  have hr : (ofSettings s).registry.GenericLast := Registry.genericLast_ofSettings s
  obtain ⟨i, e, hi, he, hgeneric⟩ := h
  obtain ⟨j, hj, hjp, hjrec⟩ := hdiscerns
  obtain ⟨f, hf, rfl⟩ := Option.map_eq_some_iff.1 hjp
  have hisGeneric : (ofSettings s).isGeneric i = true := isGeneric_iff.2 ⟨e, he, hgeneric⟩
  -- no position of the specific protocol is the one that answers
  have hother : ∀ k ∈ (ofSettings s).registry.scanOrder, ∀ f',
      (ofSettings s).registry.get? k = some f' → f'.protocol = f.protocol →
        i ∈ l.cachedAt d.port ∧ k ∉ l.cachedAt d.port := by
    intro k hk f' hf' hkp
    have hne : k ≠ i := by
      rintro rfl
      exact hp (hkp ▸ Option.some.inj (hf'.symm.trans he) ▸ hgeneric)
    refine cached_of_isGeneric hr hl hi hisGeneric hne hk ?_
    rw [recognises, ← recordsBy?_of_get? s hf', hkp, recordsBy?_of_get? s hf]
    exact hjrec
  constructor
  · exact Dispatcher.mem_cachedProtocols.2 ⟨i, (hother j hj f hf rfl).1, e, he, hgeneric⟩
  · intro hmem
    obtain ⟨k, hk, f', hf', hkp⟩ := Dispatcher.mem_cachedProtocols.1 hmem
    exact (hother k (hl.scanned _ k hk) f' hf' hkp).2 hk

end Dispatcher

/-- The request of a web page. -/
def webRequest : List UInt8 := Ascii.bytes "GET / HTTP/1.1\r\n\r\n"

/-- A request on a TCP socket, for runs that are written out. -/
def Event.sends (data : List UInt8) (num : Int32) (dstPort : UInt16) : Event where
  name := "write"
  category := .net
  timestamp := 1000
  result := 4
  data := data
  context := some ⟨some { pid := 7, tid := 7 },
    some { num, transport := .tcp, srcIp := some .unspecified, srcPort := 40000, dstPort }⟩

namespace Dispatcher

end Dispatcher

end SocketWatch
