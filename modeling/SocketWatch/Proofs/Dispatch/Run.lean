import SocketWatch.Dispatch.Basic
import SocketWatch.Proofs.Dispatch.Registry
import SocketWatch.Proofs.Stepwise
/-!
# How a dialog is resolved

The dispatcher resolves a dialog in one of four ways, and `Resolution` says what each of them
learns and which records it gives. There is no fifth way: a dialog with a request that nothing else
recognises is recognised by the generic protocol, and where that one stands last and takes part in
scans, a scan cannot fail (`dispatch_resolution`). So the counter of unresolved dialogs is never
touched, and what has to be shown of every dispatch is shown by four cases.

A dispatcher that was asked nothing yet has learned nothing; what it can have learned is what it
learns from some list of dialogs (`learnedAfter`).
-/

namespace SocketWatch.Dispatcher

open Wire (Protocol)

variable {r : Dispatcher} {l : Learned} {d : Dialog}

/-! ### The generic protocol takes everything -/

theorem isGeneric_of_get? {i : Nat} {e : Registration} (he : r.registry.get? i = some e) :
    r.isGeneric i = decide (e.protocol = .generic) := by
  rw [isGeneric, he]
  rfl

/-- **The generic protocol recognises every dialog with a request.** -/
theorem isSome_records?_of_isGeneric {i : Nat} (hi : r.isGeneric i = true)
    (hd : d.has .request = true) : (r.records? d i).isSome = true := by
  obtain ⟨e, he, hp⟩ := (Option.any_eq_true _ _).1 hi
  obtain ⟨q, hq⟩ := Option.isSome_iff_exists.1 hd
  have hrequest : d.request = some q := hq
  have hgeneric : e.protocol = .generic := of_decide_eq_true hp
  cases hresponse : d.response <;>
    simp [records?, he, wholeRecords?, hgeneric, Protocol.isMultiplexed, hrequest, hresponse,
      Dialog.exchangeRecord?]

/-! ### Asking several protocols -/

theorem firstRecords?_eq_none_iff {positions : List Nat} :
    r.firstRecords? d positions = none ↔ ∀ i ∈ positions, r.records? d i = none := by
  simp [firstRecords?]

theorem mem_of_firstRecords? {positions : List Nat} {i : Nat} {records : List Record}
    (h : r.firstRecords? d positions = some (i, records)) :
    i ∈ positions ∧ r.records? d i = some records := by
  obtain ⟨j, hj, h⟩ := List.exists_of_findSome?_eq_some h
  obtain ⟨records', hrec, h⟩ := Option.map_eq_some_iff.1 h
  obtain ⟨rfl, rfl⟩ := Prod.mk.inj h
  exact ⟨hj, hrec⟩

/-- **A scan cannot fail** where the generic protocol takes part in it. -/
theorem firstRecords?_scanOrder_ne_none (hr : r.registry.GenericLast)
    (hd : d.has .request = true) : r.firstRecords? d r.registry.scanOrder ≠ none := by
  obtain ⟨i, hi, e, he, hp⟩ := hr.exists_scanned
  have hgeneric : r.isGeneric i = true := by rw [isGeneric_of_get? he, hp]; rfl
  intro hnone
  have hrec := isSome_records?_of_isGeneric hgeneric hd
  rw [firstRecords?_eq_none_iff.1 hnone i hi] at hrec
  cases hrec

/-! ### The four ways -/

/-- Whether the protocols of a registry are scanned for a dialog, rather than one of them being
bound to the port or found among those cached for it. A dialog without a request needs none. -/
def scans (r : Dispatcher) (l : Learned) (d : Dialog) : Bool :=
  (r.settings.boundProtocol? d.port).isNone && d.has .request &&
    (r.firstRecords? d (l.cachedAt d.port)).isNone

/-- The position at which a scan recognises a dialog; none where no scan is made. -/
def scanned? (r : Dispatcher) (l : Learned) (d : Dialog) : Option Nat :=
  if r.scans l d then (r.firstRecords? d r.registry.scanOrder).map (·.1) else none

/-- The ways in which a dialog is resolved: the position that a scan found, if one was made, what
is learned, and the records. -/
inductive Resolution (r : Dispatcher) (l : Learned) (d : Dialog) :
    Option Nat → Learned → List Record → Prop where
  /-- The port is bound to a protocol. -/
  | bound {key : String} (hport : r.settings.boundProtocol? d.port = some key) :
    Resolution r l d none { l with resolutions.bound := l.resolutions.bound + 1 }
      (r.boundRecords d key)
  /-- The connection was never used. -/
  | unused (hport : r.settings.boundProtocol? d.port = none) (hreq : d.has .request = false) :
    Resolution r l d none l (d.connectRecord? Protocol.generic.key).toList
  /-- A protocol that is cached for the port recognises the dialog. -/
  | cached (hport : r.settings.boundProtocol? d.port = none) (hreq : d.has .request = true)
      {i : Nat} {records : List Record} (hi : i ∈ l.cachedAt d.port)
      (hrec : r.records? d i = some records) :
    Resolution r l d none (l.cachedHit d.port i (r.isGeneric i)) records
  /-- No cached protocol does, but one that is scanned. -/
  | scanned (hport : r.settings.boundProtocol? d.port = none) (hreq : d.has .request = true)
      {i : Nat} {records : List Record} (hmiss : ∀ j ∈ l.cachedAt d.port, r.records? d j = none)
      (hi : i ∈ r.registry.scanOrder) (hrec : r.records? d i = some records) :
    Resolution r l d (some i) (l.scanned d.port i) records

/-- On a port that is bound nothing else is asked. -/
theorem dispatch_of_bound {key : String} (hport : r.settings.boundProtocol? d.port = some key) :
    r.dispatch l d =
      ({ l with resolutions.bound := l.resolutions.bound + 1 }, r.boundRecords d key) := by
  rw [dispatch, hport]

/-- **Every dialog is resolved** in one of the four ways. -/
theorem dispatch_resolution (hr : r.registry.GenericLast) (l : Learned) (d : Dialog) :
    r.Resolution l d (r.scanned? l d) (r.dispatch l d).1 (r.dispatch l d).2 := by
  unfold dispatch scanned? scans
  cases hport : r.settings.boundProtocol? d.port with
  | some key => exact .bound hport
  | none =>
    cases hreq : d.has .request with
    | false => exact .unused hport hreq
    | true =>
      cases hcache : r.firstRecords? d (l.cachedAt d.port) with
      | some found =>
        obtain ⟨hi, hrec⟩ := mem_of_firstRecords? hcache
        exact .cached hport hreq hi hrec
      | none =>
        cases hscan : r.firstRecords? d r.registry.scanOrder with
        | none => exact absurd hscan (firstRecords?_scanOrder_ne_none hr hreq)
        | some found =>
          obtain ⟨hi, hrec⟩ := mem_of_firstRecords? hscan
          exact .scanned hport hreq (firstRecords?_eq_none_iff.1 hcache) hi hrec

/-! ### What can have been learned -/

/-- What is learned from dialogs that are dispatched one after the other. -/
def learnedAfter (r : Dispatcher) (ds : List Dialog) : Learned := (Stepwise.run r.dispatch {} ds).1

theorem learnedAfter_concat (ds : List Dialog) (d : Dialog) :
    r.learnedAfter (ds ++ [d]) = (r.dispatch (r.learnedAfter ds) d).1 := by
  rw [learnedAfter, Stepwise.run_concat]
  rfl

/-- What every dispatch keeps holds of all that can have been learned. -/
theorem learnedAfter_invariant {I : Learned → Prop} (hfresh : I {})
    (hstep : ∀ l d, I l → I (r.dispatch l d).1) (ds : List Dialog) : I (r.learnedAfter ds) :=
  Stepwise.run_invariant hstep hfresh ds

end SocketWatch.Dispatcher
