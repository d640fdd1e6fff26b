import SocketWatch.Proofs.Dialog.Run
import SocketWatch.Proofs.Dispatch.Finding
import SocketWatch.Proofs.Dispatch.Learned
import SocketWatch.Proofs.Dispatch.Run
/-!
# What a dispatch gives

Whichever way a dialog is resolved, its records have one of three origins: the dialog was never
used, or nothing could be said about it but which protocol its port is bound to, or a registered
protocol recognised it (`Origin`). Two promises of the dispatcher are read off the origins, once for
all ways of resolving.

* No dialog vanishes and each is accounted for: there is a record, all records name one protocol,
  and exactly one counter tells how the dialog was resolved (`dispatch_accounts`).
* Every record says of an error exactly what there is to say: that connecting failed, that there
  was no response, or, where there was one, whether the protocol reports an error
  (`dispatch_classifies`).
-/

namespace SocketWatch

open Wire (Protocol)

/-! ### The protocol of a port -/

namespace NetworkSettings

variable {s : NetworkSettings} {port : UInt16}

/-- Of the choices that bind a port the last one counts. -/
theorem boundProtocol?_of_last {before after : List ProtocolSettings} {p : ProtocolSettings}
    (hs : s.tuning = before ++ p :: after) (hp : port ∈ p.ports)
    (hafter : ∀ p' ∈ after, port ∉ p'.ports) : s.boundProtocol? port = some p.key := by
  have hlater : after.reverse.find? (·.ports.contains port) = none :=
    List.find?_eq_none.2 fun p' hp' ↦ by simpa using hafter p' (List.mem_reverse.1 hp')
  rw [boundProtocol?, hs, List.reverse_append, List.reverse_cons, List.append_assoc,
    List.find?_append, hlater]
  simp [hp]

theorem boundProtocol?_of_unbound (h : ∀ p ∈ s.tuning, port ∉ p.ports) :
    s.boundProtocol? port = none := by
  have hnone : s.tuning.reverse.find? (·.ports.contains port) = none :=
    List.find?_eq_none.2 fun p hp ↦ by simpa using h p (List.mem_reverse.1 hp)
  rw [boundProtocol?, hnone]
  rfl

end NetworkSettings

namespace Registry

theorem get?_of_indexOf? {r : Registry} {key : String} {i : Nat} (h : r.indexOf? key = some i) :
    ∃ e, r.get? i = some e ∧ e.protocol.key = key := by
  obtain ⟨hi, hkey, -⟩ := List.findIdx?_eq_some_iff_getElem.1 h
  exact ⟨r.entries[i], List.getElem?_eq_getElem hi, by simpa using hkey⟩

end Registry

/-- The record is one of an exchange. -/
def Dialog.IsReportedBy (s : NetworkSettings) (u : Dialog) (x : Record) : Prop :=
  ∃ protocol found length, u.exchangeRecord? s protocol found length = some x

namespace Dispatcher

variable {r : Dispatcher} {d : Dialog} {label : String} {records : List Record} {x : Record}

/-! ### Where records come from -/

/-- Where the records of a dialog come from, and the protocol that they name. -/
inductive Origin (r : Dispatcher) (d : Dialog) : String → List Record → Prop where
  /-- The dialog only connected. -/
  | unused (hreq : d.has .request = false) (label : String) :
    Origin r d label (d.connectRecord? label).toList
  /-- All that is known is the protocol of the port. -/
  | bare (hreq : d.has .request = true) (label : String) : Origin r d label (r.bareRecords d label)
  /-- A registered protocol recognises the dialog. -/
  | read (hreq : d.has .request = true) {i : Nat} {e : Registration} {records : List Record}
      (he : r.registry.get? i = some e) (hrec : r.records? d i = some records) :
    Origin r d e.protocol.key records

theorem origin_of_records? (hreq : d.has .request = true) {i : Nat}
    (hrec : r.records? d i = some records) : ∃ label, r.Origin d label records := by
  obtain ⟨e, he, -⟩ := Option.bind_eq_some_iff.1 hrec
  exact ⟨e.protocol.key, .read hreq he hrec⟩

/-- The records of a dialog on a port that is bound to a protocol, registered or not, recognising
it or not. -/
theorem origin_boundRecords (r : Dispatcher) (d : Dialog) (key : String) :
    r.Origin d key (r.boundRecords d key) := by
  unfold boundRecords
  cases hreq : d.has .request with
  | false => exact .unused hreq key
  | true =>
    simp only [if_true]
    cases hrec : (r.registry.indexOf? key).bind (r.records? d) with
    | none => exact .bare hreq key
    | some records =>
      obtain ⟨i, hi, hread⟩ := Option.bind_eq_some_iff.1 hrec
      obtain ⟨e, he, rfl⟩ := Registry.get?_of_indexOf? hi
      exact .read hreq he hread

/-- **Every way of resolving a dialog has an origin.** -/
theorem Resolution.origin {l l' : Learned} {found : Option Nat}
    (h : r.Resolution l d found l' records) : ∃ label, r.Origin d label records := by
  cases h with
  | bound => exact ⟨_, origin_boundRecords r d _⟩
  | unused _ hreq => exact ⟨_, .unused hreq _⟩
  | cached _ hreq _ hrec => exact origin_of_records? hreq hrec
  | scanned _ hreq _ _ hrec => exact origin_of_records? hreq hrec

/-- **So does every dispatch**, of any dispatcher: where no protocol recognises the dialog it is the
port that is left. -/
theorem dispatch_origin (r : Dispatcher) (l : Learned) (d : Dialog) :
    ∃ label, r.Origin d label (r.dispatch l d).2 := by
  unfold dispatch
  cases r.settings.boundProtocol? d.port with
  | some key => exact ⟨key, origin_boundRecords r d key⟩
  | none =>
    cases hreq : d.has .request with
    | false => exact ⟨_, .unused hreq _⟩
    | true =>
      cases hcache : r.firstRecords? d (l.cachedAt d.port) with
      | some found => exact origin_of_records? hreq (mem_of_firstRecords? hcache).2
      | none =>
        cases hscan : r.firstRecords? d r.registry.scanOrder with
        | some found => exact origin_of_records? hreq (mem_of_firstRecords? hscan).2
        | none => exact ⟨_, .bare hreq _⟩

/-! ### Records of one origin -/

/-- **All records of a dialog name one protocol.** -/
theorem Origin.names (h : r.Origin d label records) (hx : x ∈ records) : x.Names label := by
  cases h with
  | unused => exact (Dialog.connectRecord?_spec (Option.mem_toList.1 hx)).1
  | bare => exact Dialog.exchangeRecord?_names rfl (Option.mem_toList.1 hx)
  | read _ he hrec =>
    obtain ⟨u, found, -, hfound, hrecord⟩ := shows_of_records? he hrec hx
    refine Dialog.exchangeRecord?_names ?_ hrecord
    rcases hfound.silent_or_accuses with hsilent | ⟨haccuses, -⟩
    · exact hsilent _ (by decide)
    · exact haccuses.protocol

/-- What a record is written from: a connection that was never used, or an exchange and what was
found in it, which is said in the labels of the readers but for an error. -/
inductive Written (r : Dispatcher) (d : Dialog) (x : Record) : Prop where
  /-- The dialog only connected. -/
  | unused (hreq : d.has .request = false) {label : String} (hx : d.connectRecord? label = some x)
  /-- The record is about an exchange. -/
  | exchange {u : Dialog} (hu : d.IsExchange u) {label : String} {found : Attributes} {length : Nat}
      (hfound : ∀ name ∉ Label.ofReaders, name ≠ Label.isError → name ≠ Label.errorType →
        found.find? name = none)
      (hx : u.exchangeRecord? r.settings label found length = some x)

theorem Origin.written (h : r.Origin d label records) (hx : x ∈ records) : r.Written d x := by
  cases h with
  | unused hreq => exact .unused hreq (Option.mem_toList.1 hx)
  | bare => exact .exchange .whole (fun _ _ _ _ ↦ rfl) (Option.mem_toList.1 hx)
  | read _ he hrec =>
    obtain ⟨u, found, hu, hfound, hrecord⟩ := shows_of_records? he hrec hx
    exact .exchange hu (fun _ ↦ hfound.find?_eq_none) hrecord

/-- **A dialog that has begun, other than with a response, gives a record.** -/
theorem Origin.ne_nil (h : r.Origin d label records) (hd : d.Built)
    (hbegun : d.has .request = true ∨ d.has .connect = true) : records ≠ [] := by
  cases h with
  | unused hreq =>
    rcases hbegun with hbegun | hbegun
    · rw [hreq] at hbegun
      cases hbegun
    · obtain ⟨b, hb⟩ := Option.isSome_iff_exists.1 hbegun
      have hconnect : d.connect = some b := hb
      rw [Dialog.connectRecord?, hconnect]
      exact List.cons_ne_nil _ _
  | bare hreq =>
    obtain ⟨b, hb⟩ := Option.isSome_iff_exists.1 hreq
    have hrequest : d.request = some b := hb
    rw [bareRecords, Dialog.exchangeRecord?, hrequest]
    exact List.cons_ne_nil _ _
  | read _ _ hrec => exact records?_ne_nil hd hrec

/-- Why a record tells the kind of error it tells. -/
inductive Verdict (r : Dispatcher) (d : Dialog) (records : List Record) (x : Record) :
    ErrorKind → Prop where
  /-- The dialog only connected. -/
  | unused (hreq : d.has .request = false) : Verdict r d records x .connectFail
  /-- The request was not answered. -/
  | unanswered (hreq : d.has .request = true) {u : Dialog} (hu : d.IsExchange u)
      (hx : u.IsReportedBy r.settings x) (ha : u.response = none) :
    Verdict r d records x .noResponse
  /-- It was. -/
  | answered (hreq : d.has .request = true) {u : Dialog} (hu : d.IsExchange u)
      (hx : u.IsReportedBy r.settings x) (ha : u.response ≠ none) : Verdict r d records x .noError
  /-- It was, and the protocol that recognised the dialog reports an error in the response. -/
  | faulty (hreq : d.has .request = true) {u : Dialog} (hu : d.IsExchange u)
      (hx : u.IsReportedBy r.settings x) {i : Nat} {e : Registration}
      (he : r.registry.get? i = some e) (hrec : r.records? d i = some records)
      (hname : x.Names e.protocol.key) (hfaults : e.protocol.Faults u) :
    Verdict r d records x .protocolError

/-- Where the protocol says nothing about errors, the response decides. -/
theorem verdict_of_silent (hreq : d.has .request = true) {u : Dialog} (hu : d.IsExchange u)
    {found : Attributes} {length : Nat} (hfound : found.Silent)
    (hx : u.exchangeRecord? r.settings label found length = some x) :
    ∃ kind, x.Tells kind ∧ r.Verdict d records x kind := by
  have htells := Dialog.exchangeRecord?_of_silent hfound hx
  cases ha : u.response with
  | none =>
    rw [ha] at htells
    exact ⟨.noResponse, htells, .unanswered hreq hu ⟨_, _, _, hx⟩ ha⟩
  | some a =>
    rw [ha] at htells
    exact ⟨.noError, htells, .answered hreq hu ⟨_, _, _, hx⟩ (by simp [ha])⟩

/-- **Every record has a verdict**, and tells it. -/
theorem Origin.verdict (h : r.Origin d label records) (hx : x ∈ records) :
    ∃ kind, x.Tells kind ∧ r.Verdict d records x kind := by
  have hname := h.names hx
  cases h with
  | unused hreq =>
    exact ⟨.connectFail, (Dialog.connectRecord?_spec (Option.mem_toList.1 hx)).2, .unused hreq⟩
  | bare hreq =>
    exact verdict_of_silent hreq .whole Attributes.silent_empty (Option.mem_toList.1 hx)
  | @read hreq i e _ he hrec =>
    obtain ⟨u, found, hu, hfound, hrecord⟩ := shows_of_records? he hrec hx
    rcases hfound.silent_or_accuses with hsilent | ⟨haccuses, hfaults⟩
    · exact verdict_of_silent hreq hu hsilent hrecord
    · exact ⟨.protocolError, Dialog.exchangeRecord?_of_accuses haccuses hrecord,
        .faulty hreq hu ⟨_, _, _, hrecord⟩ he hrec hname hfaults⟩

/-! ### The two promises -/

/-- What a resolution does to the counters of resolutions: exactly one of them grows, and that of
unresolved dialogs does not. -/
theorem Resolution.resolutions_eq {l l' : Learned} {found : Option Nat}
    (h : r.Resolution l d found l' records) (hport : r.settings.boundProtocol? d.port = none)
    (hreq : d.has .request = true) :
    l'.resolutions = { l.resolutions with cached := l.resolutions.cached + 1 } ∨
      l'.resolutions = { l.resolutions with scanned := l.resolutions.scanned + 1 } := by
  cases h with
  | bound hport' =>
    rw [hport] at hport'
    cases hport'
  | unused _ hreq' =>
    rw [hreq] at hreq'
    cases hreq'
  | cached => exact .inl (Learned.resolutions_cachedHit _ _ _ _)
  | scanned => exact .inr (Learned.resolutions_scanned _ _ _)

theorem Resolution.unresolved_eq {l l' : Learned} {found : Option Nat}
    (h : r.Resolution l d found l' records) :
    l'.resolutions.unresolved = l.resolutions.unresolved := by
  cases h with
  | bound => rfl
  | unused => rfl
  | cached => rw [Learned.resolutions_cachedHit]
  | scanned => rw [Learned.resolutions_scanned]

/-- Every dialog is resolved, so none is counted as unresolved. -/
theorem unresolved_learnedAfter (hr : r.registry.GenericLast) (ds : List Dialog) :
    (r.learnedAfter ds).resolutions.unresolved = 0 :=
  learnedAfter_invariant (I := fun l ↦ l.resolutions.unresolved = 0) rfl
    (fun l d hl ↦ (dispatch_resolution hr l d).unresolved_eq.trans hl) ds

/-- **Every record is classified**, in every deployment, whatever was dispatched before and for
every dialog. It tells exactly one kind of error. It tells that connecting failed exactly where the
dialog has no request; else it is about an exchange of the dialog, and tells that there was no
response exactly where that exchange has none. Where it tells of an error that the protocol reports,
a registered protocol recognised the dialog, and its reader, given the response of the exchange and
nothing that speaks of errors, said so; neither the generic protocol nor Kafka ever does. -/
theorem dispatch_classifies (s : NetworkSettings) (earlier : List Dialog) (d : Dialog) :
    let r := Dispatcher.ofSettings s
    let records := (r.dispatch (r.learnedAfter earlier) d).2
    ∀ x ∈ records,
      (∃! kind, x.Tells kind) ∧
      (x.Tells .connectFail ↔ d.has .request = false) ∧
      (d.has .request = true → ∃ u, d.IsExchange u ∧ u.IsReportedBy s x ∧
        (x.Tells .noResponse ↔ u.response = none) ∧
        (x.Tells .protocolError ∨ x.Tells .noError ↔ u.response ≠ none) ∧
        (x.Tells .protocolError → ∃ i e, r.registry.get? i = some e ∧
          r.records? d i = some records ∧ x.Names e.protocol.key ∧ e.protocol.Faults u ∧
          e.protocol ≠ .generic ∧ e.protocol ≠ .kafka)) := by
  intro r records x hx
  have hr : r.registry.GenericLast := Registry.genericLast_ofSettings s
  obtain ⟨label, horigin⟩ := (dispatch_resolution hr (r.learnedAfter earlier) d).origin
  obtain ⟨kind, htells, hverdict⟩ := horigin.verdict hx
  -- whatever is asked of the kinds a record tells is asked of this one
  have hone : ∀ kind', x.Tells kind' ↔ kind' = kind := fun kind' ↦
    ⟨fun h ↦ h.unique htells, fun h ↦ h ▸ htells⟩
  refine ⟨⟨kind, htells, fun kind' h ↦ (hone kind').1 h⟩, ?_, fun hreq ↦ ?_⟩
  · cases hverdict with
    | unused hreq => simp [hone, hreq]
    | unanswered hreq => simp [hone, hreq]
    | answered hreq => simp [hone, hreq]
    | faulty hreq => simp [hone, hreq]
  · cases hverdict with
    | unused hreq' =>
      rw [hreq] at hreq'
      cases hreq'
    | @unanswered _ u hu hreport ha => exact ⟨u, hu, hreport, by simp [hone, ha]⟩
    | @answered _ u hu hreport ha => exact ⟨u, hu, hreport, by simp [hone, ha]⟩
    | @faulty _ u hu hreport i e he hrec hname hfaults =>
      refine ⟨u, hu, hreport, ?_, ?_, fun _ ↦ ⟨i, e, he, hrec, hname, hfaults, hfaults.ne⟩⟩
      · simp [hone, hfaults.response_ne_none]
      · simp [hone, hfaults.response_ne_none]

end Dispatcher

end SocketWatch
