import SocketWatch.Proofs.Dialog.History
import SocketWatch.Proofs.Dispatch.Outcome
/-!
# Whose translation a record carries

What stands behind NAT is looked up once for a dialog, by the tuple of its first event, the one of
the earliest phase. A record is labelled with the parties of the request it is about, which may be
another event of the dialog, and of a dialog with several requests each record has its own. So the
translation that a record carries is that of the first event (`run_translates`), and it is the
record's own only as far as the events of a dialog agree about their tuple.

They do where the tuple is a part of the key, which is so for datagrams, provided that the addresses
are known. On a connected descriptor process and descriptor are the key, on the ground that a
descriptor is bound to one peer as long as it is open; and if it is closed and opened again without
the watcher noticing, then a request to one peer is reported with the translation of another
(`translates_other`).
-/

namespace SocketWatch

namespace Event

/-- The tuple of an event, if both addresses are known. -/
def tuple? (e : Event) : Option FourTuple :=
  match e.srcIp, e.dstIp with
  | some srcIp, some dstIp => some { srcIp, srcPort := e.srcPort, dstIp, dstPort := e.dstPort }
  | _, _ => none

/-- Both addresses are known; a key has `0.0.0.0` for one that is not. -/
def KnowsEnds (e : Event) : Prop :=
  ∃ srcIp dstIp, e.srcIp = some srcIp ∧ e.dstIp = some dstIp ∧ srcIp ≠ .unspecified ∧
    dstIp ≠ .unspecified

end Event

namespace DialogKey

variable {e e' : Event}

theorem isUdp_ofEvent (e : Event) : (ofEvent e).isUdp = e.isUdp := by
  unfold ofEvent
  split
  · rename_i h
    exact h.symm
  · rename_i h
    exact (Bool.eq_false_iff.2 h).symm

/-- An address that is known is read off the key. -/
theorem eq_some_of_getD {ip : Option Ipv4} {known : Ipv4} (hknown : known ≠ .unspecified)
    (h : ip.getD .unspecified = known) : ip = some known := by
  cases ip with
  | none => exact absurd h.symm hknown
  | some ip => exact congrArg some h

/-- **Datagrams of one dialog have one tuple**, if the ends of one of them are known. -/
theorem tuple?_eq_of_isUdp (h : ofEvent e = ofEvent e') (hudp : e'.isUdp = true)
    (hends : e'.KnowsEnds) : e.tuple? = e'.tuple? := by
  obtain ⟨srcIp, dstIp, hsrc, hdst, hsrcKnown, hdstKnown⟩ := hends
  have hudp' : e.isUdp = true := by rw [← isUdp_ofEvent, h, isUdp_ofEvent, hudp]
  rw [ofEvent, ofEvent, if_pos hudp, if_pos hudp', udp.injEq] at h
  obtain ⟨-, -, hsrcIp, hdstIp, hsrcPort, hdstPort⟩ := h
  rw [hsrc] at hsrcIp
  rw [hdst] at hdstIp
  rw [Event.tuple?, Event.tuple?, eq_some_of_getD hsrcKnown hsrcIp,
    eq_some_of_getD hdstKnown hdstIp, hsrc, hdst, hsrcPort, hdstPort]

end DialogKey

/-! ### Looking up -/

/-- The event that stands for a dialog began one of its phases. -/
theorem Dialog.exists_get_of_firstEvent? {d : Dialog} {e : Event} (h : d.firstEvent? = some e) :
    ∃ p b, d.get p = some b ∧ b.first = e := by
  obtain ⟨b, hb, hfirst⟩ := Option.map_eq_some_iff.1 h
  cases hconnect : d.connect with
  | some b' =>
    rw [hconnect] at hb
    exact ⟨.connect, b, hconnect.trans hb, hfirst⟩
  | none =>
    cases hrequest : d.request with
    | some b' =>
      rw [hconnect, hrequest] at hb
      exact ⟨.request, b, hrequest.trans hb, hfirst⟩
    | none =>
      rw [hconnect, hrequest] at hb
      exact ⟨.response, b, hb, hfirst⟩

theorem Dialog.natTarget_ofShares (limit : Nat) (shares : List Share) :
    (Dialog.ofShares limit shares).natTarget = none := by
  induction shares using List.reverseRecOn with
  | nil => rfl
  | append_singleton shares x ih =>
    obtain ⟨p, e⟩ := x
    rw [ofShares_concat, ← ih]
    unfold merge
    cases (ofShares limit shares).get p <;> cases p <;> rfl

namespace NetworkWatcher

variable (w : NetworkWatcher)

/-- What stands behind the tuple of an event, where the tuple is known. -/
def translation? (e : Event) : Option FourTuple := e.tuple?.bind fun t ↦ w.natTable t e.isUdp

/-- **The lookup is made by the first event**, and changes nothing else. -/
theorem resolveNat_eq (hnat : w.settings.enableConntrack = true) {d : Dialog}
    (hd : d.natTarget = none) :
    w.resolveNat d = { d with natTarget := d.firstEvent?.bind w.translation? } := by
  obtain ⟨connect, request, response, target⟩ := d
  obtain rfl : target = none := hd
  rw [resolveNat, if_pos hnat]
  cases hfirst : ({ connect, request, response } : Dialog).firstEvent? with
  | none => rfl
  | some e =>
    rw [Option.bind_some, translation?, Event.tuple?]
    cases hsrc : e.srcIp <;> cases hdst : e.dstIp <;> simp only [hsrc, hdst] <;> rfl

/-- A record is about a request of a dialog: the event that stands for the dialog, and the one that
began the request. -/
def IsAbout (calls : List NetworkCall) (x : Record) (first asked : Event) : Prop :=
  ∃ d ∈ w.handed calls, ∃ u, (w.resolveNat d).IsExchange u ∧ u.IsReportedBy w.settings x ∧
    d.firstEvent? = some first ∧ u.request.map (·.first) = some asked

variable {w} {calls : List NetworkCall} {x : Record} {first asked : Event}

/-- Both events are in the calls, and of one dialog. -/
theorem IsAbout.mem_calls (hnat : w.settings.enableConntrack = true)
    (h : w.IsAbout calls x first asked) :
    .consume first ∈ calls ∧ .consume asked ∈ calls ∧
      DialogKey.ofEvent first = DialogKey.ofEvent asked := by
  obtain ⟨d, hd, u, hu, -, hfirst, hasked⟩ := h
  obtain ⟨k, shares, rfl, hshares⟩ := exists_shares_of_mem_handed hd
  have hmade : (Dialog.ofShares w.settings.payloadLimit shares).MadeOf shares :=
    Dialog.madeOf_ofShares _ shares
  rw [w.resolveNat_eq hnat (Dialog.natTarget_ofShares _ shares)] at hu
  have hfirst_mem : ∃ p, (p, first) ∈ shares := by
    obtain ⟨p, b, hb, rfl⟩ := Dialog.exists_get_of_firstEvent? hfirst
    exact ⟨p, hmade.first_mem hb⟩
  have hasked_mem : (Phase.request, asked) ∈ shares := by
    obtain ⟨b, hb, rfl⟩ := Option.map_eq_some_iff.1 hasked
    obtain ⟨requests, hrequests, rfl | hkept⟩ := hu.request_eq_or_mem hb
    · exact hmade.first_mem (p := .request) hrequests
    · exact hmade.mem_of_mem_events (p := .request) hrequests hkept
  obtain ⟨p, hp⟩ := hfirst_mem
  obtain ⟨hkey, hcall⟩ := hshares _ hp
  obtain ⟨hkey', hcall'⟩ := hshares _ hasked_mem
  exact ⟨hcall, hcall', hkey.trans hkey'.symm⟩

/-- Events of one dialog that agree about their tuple have one translation. -/
theorem translation?_congr (hkey : DialogKey.ofEvent first = DialogKey.ofEvent asked)
    (h : first.tuple? = asked.tuple?) : w.translation? first = w.translation? asked := by
  have hudp : first.isUdp = asked.isUdp := by
    rw [← DialogKey.isUdp_ofEvent, hkey, DialogKey.isUdp_ofEvent]
  rw [translation?, translation?, h, hudp]

/-- A record with a response tells the parties of its request, and what stands behind the dialog. -/
theorem exists_request_of_written {r : Dispatcher} {d : Dialog} (h : r.Written d x)
    (hanswered : x.IsAnswered) :
    ∃ u request, d.IsExchange u ∧ u.IsReportedBy r.settings x ∧ u.request = some request ∧
      x.HasParties request.first ∧ x.Translates d.natTarget := by
  cases h with
  | unused _ hrecord => exact absurd hanswered (Dialog.connectRecord?_not_isAnswered hrecord)
  | @exchange u hu label found length hfound hrecord =>
    -- what was found has none of the labels that are asked for
    have hnone : ∀ name ∈ Label.endTimestamp :: (Label.ofTranslation ++ Label.ofParties),
        found.find? name = none := by
      intro name hname
      have hother : name ∉ Label.ofReaders ∧ name ≠ Label.isError ∧ name ≠ Label.errorType := by
        revert name
        decide
      exact hfound name hother.1 hother.2.1 hother.2.2
    obtain ⟨hend, hnone⟩ := List.forall_mem_cons.1 hnone
    obtain ⟨htranslation, hparties⟩ := List.forall_mem_append.1 hnone
    obtain ⟨request, hrequest, hhas⟩ := Dialog.exchangeRecord?_hasParties hparties hrecord
    have htranslates := Dialog.exchangeRecord?_translates htranslation hrecord
    obtain ⟨response, hresponse⟩ := Option.ne_none_iff_exists'.1
      ((Dialog.exchangeRecord?_isAnswered_iff hend hrecord).1 hanswered)
    rw [hresponse, Option.bind_some, hu.natTarget_eq] at htranslates
    exact ⟨u, request, hu, ⟨label, found, length, hrecord⟩, hrequest, hhas, htranslates⟩

/-- What is looked up for a dialog that was handed over is the translation of its first event. -/
theorem exists_firstEvent_of_mem_handed (hnat : w.settings.enableConntrack = true) {d : Dialog}
    (hd : d ∈ w.handed calls) :
    ∃ first, d.firstEvent? = some first ∧
      (w.resolveNat d).natTarget = w.translation? first := by
  obtain ⟨k, hk⟩ := w.exists_key_of_mem_handed calls d hd
  obtain ⟨first, hfirst, -⟩ := Option.map_eq_some_iff.1 hk
  refine ⟨first, hfirst, ?_⟩
  obtain ⟨-, shares, rfl, -⟩ := exists_shares_of_mem_handed hd
  rw [w.resolveNat_eq hnat (Dialog.natTarget_ofShares _ shares), hfirst]
  rfl

/-- **A record with a response carries the translation of its dialog's first event**, in every run
of a watcher that looks up translations. It tells the parties of the request it is about; both
events are of one dialog; and where they have the same tuple, as datagrams between known ends do,
the translation is that of the record's own tuple. -/
theorem run_translates (hnat : w.settings.enableConntrack = true) (calls : List NetworkCall)
    (hx : x ∈ (w.run calls).2) (hanswered : x.IsAnswered) :
    ∃ first asked, w.IsAbout calls x first asked ∧
      (.consume first ∈ calls ∧ .consume asked ∈ calls ∧
        DialogKey.ofEvent first = DialogKey.ofEvent asked) ∧
      x.HasParties asked ∧ x.Translates (w.translation? first) ∧
      (first.tuple? = asked.tuple? → x.Translates (w.translation? asked)) ∧
      (asked.isUdp = true → asked.KnowsEnds → first.tuple? = asked.tuple?) := by
  rw [run_eq] at hx
  obtain ⟨l, resolved, hresolved, hx⟩ := Stepwise.exists_of_mem_run hx
  obtain ⟨d, hd, rfl⟩ := List.mem_map.1 hresolved
  obtain ⟨label, horigin⟩ := Dispatcher.dispatch_origin w.dispatcher l (w.resolveNat d)
  obtain ⟨u, request, hu, hreport, hrequest, hparties, htranslates⟩ :=
    exists_request_of_written (horigin.written hx) hanswered
  obtain ⟨first, hfirst, htarget⟩ := exists_firstEvent_of_mem_handed hnat hd
  rw [htarget] at htranslates
  have habout : w.IsAbout calls x first request.first :=
    ⟨d, hd, u, hu, hreport, hfirst, by rw [hrequest]; rfl⟩
  obtain ⟨hcall, hcall', hkey⟩ := habout.mem_calls hnat
  refine ⟨first, request.first, habout, ⟨hcall, hcall', hkey⟩, hparties, htranslates,
    fun htuple ↦ ?_, DialogKey.tuple?_eq_of_isUdp hkey⟩
  rw [← translation?_congr hkey htuple]
  exact htranslates

/-- A call on a TCP socket of a tuple, for runs that are written out. -/
def callOn (t : FourTuple) (name : String) (timestamp : UInt64) : NetworkCall :=
  .consume { Event.sample name timestamp with
    context := some ⟨some { pid := 7, tid := 7 },
      some { num := 5, transport := .tcp, srcIp := some t.srcIp, srcPort := t.srcPort,
             dstIp := some t.dstIp, dstPort := t.dstPort }⟩ }

/-- A request and its response on one socket. -/
theorem run_translates_socket :
    let t : FourTuple := ⟨⟨1⟩, 40000, ⟨2⟩, 80⟩
    let target : FourTuple := ⟨⟨9⟩, 8080, ⟨1⟩, 40000⟩
    let w := NetworkWatcher.ofSettings { enableConntrack := true } fun _ _ ↦ some target
    let calls := [callOn t "write" 1000, callOn t "read" 2000, .reap 1000000000000]
    w.settings.enableConntrack = true ∧
      ∃ x ∈ (w.run calls).2, x.IsAnswered ∧ x.Translates (some target) := by
  intro t target w calls
  have hall : ∀ x ∈ (w.run calls).2, x.IsAnswered := by decide +kernel
  obtain ⟨x, hx⟩ := List.exists_mem_of_ne_nil (w.run calls).2 (by decide +kernel)
  obtain ⟨first, asked, -, ⟨hfirst, -⟩, -, htranslates, -⟩ :=
    run_translates rfl calls hx (hall x hx)
  refine ⟨rfl, x, hx, hall x hx, ?_⟩
  have htarget : w.translation? first = some target := by
    have hmem : NetworkCall.consume first = callOn t "write" 1000 ∨
        NetworkCall.consume first = callOn t "read" 2000 := by
      simpa [calls] using hfirst
    rcases hmem with h | h <;> cases h <;> rfl
  rwa [htarget] at htranslates

/-- A connection to one peer, and a request to another on the descriptor that it left: the record
tells the peer that was asked, and carries the translation of the one that was not. -/
theorem translates_other :
    let left : FourTuple := ⟨⟨1⟩, 40000, ⟨2⟩, 80⟩
    let own : FourTuple := ⟨⟨1⟩, 40001, ⟨3⟩, 80⟩
    let behind : FourTuple := ⟨⟨9⟩, 8080, ⟨1⟩, 40000⟩
    let w := NetworkWatcher.ofSettings { enableConntrack := true } fun t _ ↦
      if t = left then some behind else none
    let calls := [callOn left "connect" 1000, callOn own "write" 2000, callOn own "read" 3000,
      .reap 1000000000000]
    ∃ x, (w.run calls).2 = [x] ∧ x.IsAnswered ∧
      x.labels.find? Label.srcIp = some (.text own.srcIp.text) ∧
      x.labels.find? Label.srcPort = some (.int 40001) ∧
      x.labels.find? Label.dstIp = some (.text own.dstIp.text) ∧
      x.labels.find? Label.dstPort = some (.int 80) ∧
      w.natTable own false = none ∧ ¬ x.Translates none ∧ x.Translates (some behind) := by
  intro left own behind w calls
  refine ⟨(w.run calls).2.head (by decide +kernel), ?_⟩
  decide +kernel

end NetworkWatcher

end SocketWatch
