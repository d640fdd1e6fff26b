import SocketWatch.Proofs.Dispatch.Choice
/-!
# Labels that no payload can forge

The attributes that a reader takes from a payload are written over the labels of a record wholesale,
so what a record says of the process, the ends of the connection, the protocol and the payloads
rests on which names the readers use. They use names of their own, and two more for an error. So all
other labels of a record are those of the plain record, the one that the same exchange gives where
nothing was read from it (`exchangeRecord?_agrees`): the layers above do not look at what stands
below, except for the flag of an error, which decides about the two labels of an error alone.

The protocol that a record names is left to be said, since the plain record names the one it is
given. It is the protocol of the port, or the one that answers for the dialog, or the generic one
(`protocolOf`), and which one answers is not told by what its reader wrote (`dispatch_identity`).
-/

namespace SocketWatch

open Wire (Protocol)

/-! ### What a record shows of an exchange -/

/-- What is told of an event: the process, the two ends of its connection, and the side. -/
def Event.parties (e : Event) : List (String × Attribute) :=
  [(Label.pid, .int (Int64.ofInt e.pid.toNat)), (Label.comm, .text e.comm),
    (Label.srcIp, .text (e.srcIp.elim "" (·.text))),
    (Label.dstIp, .text (e.dstIp.elim "" (·.text))),
    (Label.srcPort, .int (Int64.ofInt e.srcPort.toNat)),
    (Label.dstPort, .int (Int64.ofInt e.dstPort.toNat)), (Label.containerId, .text e.containerId),
    (Label.isServer, .bool e.isServer)]

namespace Record

/-- The record says who asked as an event tells it, and on which thread. -/
structure Identifies (x : Record) (e : Event) (tid : Nat) : Prop where
  /-- The process, the ends and the side are those of the event. -/
  parties : ∀ f ∈ e.parties, x.labels.find? f.1 = some f.2
  /-- The thread is this one. -/
  thread : x.labels.find? Label.requestTid = some (.int (Int64.ofInt tid))

/-- The record says of an exchange with this request what the watcher saw, under the name of this
protocol and with so many bytes of each payload. -/
structure Renders (x : Record) (s : NetworkSettings) (u : Dialog) (q : Burst) (protocol : String)
    (length : Nat) : Prop where
  /-- Who asked is told by the event the request began with. -/
  identifies : x.Identifies q.first q.first.tid.toNat
  /-- The protocol is this one. -/
  names : x.Names protocol
  /-- An exchange is slow where it took longer than the protocol is allowed to. -/
  slow : x.labels.find? Label.isSlow =
    some (.bool (u.response.isSome && s.isSlow protocol u.duration))
  /-- The request is shown as it was captured. -/
  request : x.labels.find? Label.requestPayload = some (.text (Ascii.printable length q.data))
  /-- So is the response. -/
  response : x.labels.find? Label.responsePayload =
    some (.text (u.response.elim "" fun b ↦ Ascii.printable length b.data))

end Record

/-- The labels of an exchange that only the watcher writes: all that every exchange has but the two
of an error. -/
def Label.ofWatcher : List String :=
  Label.ofExchange.filter fun name ↦ name ≠ Label.isError && name ≠ Label.errorType

theorem Label.mem_ofWatcher {name : String} :
    name ∈ Label.ofWatcher ↔
      name ∈ Label.ofExchange ∧ name ≠ Label.isError ∧ name ≠ Label.errorType := by
  simp [Label.ofWatcher]

/-- No reader writes them. -/
theorem Label.notMem_ofReaders_of_ofWatcher {name : String} (h : name ∈ Label.ofWatcher) :
    name ∉ Label.ofReaders := by
  revert name
  decide

namespace Dialog

variable {s : NetworkSettings} {d : Dialog} {protocol name : String} {found a b : Attributes}
  {length : Nat} {x : Record}

/-! ### The layers above -/

/-- The payloads are written without looking at what stands there. -/
theorem find?_putPayloads_congr (h : a.find? name = b.find? name) (request : Burst) (length : Nat) :
    (putPayloads a d request length).find? name = (putPayloads b d request length).find? name := by
  simp only [putPayloads, Attributes.find?_putText]
  cases d.response with
  | none => simp only [h]
  | some _ => simp only [Attributes.find?_putInt, h]

/-- The outcome looks at the flag of an error alone, and writes only labels of an error by it. -/
theorem find?_putOutcome_congr (hflag : name ≠ Label.isError) (hkind : name ≠ Label.errorType)
    (h : a.find? name = b.find? name) :
    (putOutcome a d).find? name = (putOutcome b d).find? name := by
  have hkept : ∀ c : Attributes, (if !c.getBool Label.isError && d.response.isNone then
      putError c .noResponse else c).find? name = c.find? name := fun c ↦ by
    rw [apply_ite fun c : Attributes ↦ c.find? name, find?_putError_of_ne hflag hkind, ite_self]
  simp only [putOutcome]
  split
  · simp only [Attributes.find?_putInt, Attributes.find?_putText, hkept, h]
  · rw [hkept, hkept, h]

/-- **What the watcher writes of an exchange is what it writes of it where nothing was read**,
unless what was found says something under the same name. -/
theorem exchangeRecord?_agrees (hfound : ∀ name ∈ Label.ofWatcher, found.find? name = none)
    (h : d.exchangeRecord? s protocol found length = some x) :
    ∃ plain, d.exchangeRecord? s protocol ∅ length = some plain ∧
      ∀ name ∈ Label.ofWatcher, x.labels.find? name = plain.labels.find? name := by
  obtain ⟨request, hrequest, rfl⟩ := Option.map_eq_some_iff.1 h
  refine ⟨_, congrArg (Option.map _) hrequest, fun name hname ↦ ?_⟩
  obtain ⟨-, hflag, hkind⟩ := Label.mem_ofWatcher.1 hname
  rw [Record.labels_setAll, Record.labels_setAll]
  refine find?_putOutcome_congr hflag hkind (find?_putPayloads_congr ?_ request length)
  rw [Fields.find?_overlay, Fields.find?_overlay, hfound name hname, Fields.find?_empty]

/-! ### The plain record -/

theorem find?_partyLabels (e : Event) : ∀ f ∈ e.parties, (partyLabels e).find? f.1 = some f.2 := by
  simp only [Event.parties, List.forall_mem_cons, List.not_mem_nil, false_implies, implies_true,
    partyLabels, Attributes.find?_putInt, Attributes.find?_putText, Attributes.find?_putBool]
  exact ⟨rfl, rfl, rfl, rfl, rfl, rfl, rfl, rfl, trivial⟩

theorem identifies_of_hasParties {e : Event} {tid : Nat} (hparties : x.HasParties e)
    (htid : x.labels.find? Label.requestTid = some (.int (Int64.ofInt tid))) :
    x.Identifies e tid where
  parties f hf := by
    have hname : f.1 ∈ Label.ofParties := by
      have hnames : e.parties.map (·.1) = Label.ofParties := rfl
      exact hnames ▸ List.mem_map_of_mem hf
    rw [hparties _ hname, find?_partyLabels e f hf]
  thread := htid

/-- **The plain record renders its exchange.** -/
theorem exchangeRecord?_renders (h : d.exchangeRecord? s protocol ∅ length = some x) :
    ∃ q, d.request = some q ∧ x.Renders s d q protocol length := by
  obtain ⟨q, hq, hparties⟩ := exchangeRecord?_hasParties (fun _ _ ↦ rfl) h
  have hnames : x.Names protocol := exchangeRecord?_names rfl h
  obtain ⟨request, hrequest, rfl⟩ := Option.map_eq_some_iff.1 h
  obtain rfl := Option.some.inj (hq.symm.trans hrequest)
  have hother : ∀ name ∈ [Label.requestTid, Label.isSlow],
      (putOutcome (putPayloads ((exchangeLabels s d q protocol).overlay ∅) d q length) d).find?
        name = (exchangeLabels s d q protocol).find? name := by
    intro name hname
    obtain ⟨htranslation, hpayloads, hflag, hkind⟩ : name ∉ Label.ofTranslation ∧
        name ∉ Label.ofPayloads ∧ name ≠ Label.isError ∧ name ≠ Label.errorType := by
      revert name
      decide
    rw [find?_putOutcome_of_ne htranslation hflag hkind, find?_putPayloads hpayloads,
      Fields.find?_overlay, Fields.find?_empty, Option.none_or]
  have hpayload : ∀ name ∈ [Label.requestPayload, Label.responsePayload], ∀ a : Attributes,
      (putOutcome a d).find? name = a.find? name := by
    intro name hname a
    obtain ⟨htranslation, hflag, hkind⟩ : name ∉ Label.ofTranslation ∧ name ≠ Label.isError ∧
        name ≠ Label.errorType := by
      revert name
      decide
    exact find?_putOutcome_of_ne htranslation hflag hkind
  refine ⟨q, hq, identifies_of_hasParties hparties ?_, hnames, ?_, ?_, ?_⟩
  · rw [Record.labels_setAll, hother _ (by decide)]
    simp only [exchangeLabels, putError, Attributes.find?_putInt, Attributes.find?_putText,
      Attributes.find?_putBool]
    rfl
  · rw [Record.labels_setAll, hother _ (by decide)]
    simp only [exchangeLabels, putError, Attributes.find?_putText, Attributes.find?_putBool]
    rfl
  · rw [Record.labels_setAll, hpayload _ (by decide), putPayloads, Attributes.find?_putText,
      if_neg (by decide), Attributes.find?_putText, if_pos rfl]
  · rw [Record.labels_setAll, hpayload _ (by decide), putPayloads, Attributes.find?_putText,
      if_pos rfl]

/-- What renders an exchange is told in the labels of the watcher. -/
theorem renders_of_agrees {plain : Record} {q : Burst} (h : plain.Renders s d q protocol length)
    (hx : ∀ name ∈ Label.ofWatcher, x.labels.find? name = plain.labels.find? name) :
    x.Renders s d q protocol length where
  identifies := {
    parties f hf := by
      have hname : f.1 ∈ Label.ofWatcher := by
        have hnames : q.first.parties.map (·.1) = Label.ofParties := rfl
        have hparties : ∀ name ∈ Label.ofParties, name ∈ Label.ofWatcher := by decide
        exact hparties _ (hnames ▸ List.mem_map_of_mem hf)
      rw [hx _ hname, h.identifies.parties f hf]
    thread := (hx _ (by decide)).trans h.identifies.thread }
  names := (hx _ (by decide)).trans h.names
  slow := (hx _ (by decide)).trans h.slow
  request := (hx _ (by decide)).trans h.request
  response := (hx _ (by decide)).trans h.response

/-- A connection that was never used is identified by the event it began with. -/
theorem connectRecord?_identifies (h : d.connectRecord? protocol = some x) :
    ∃ c, d.connect = some c ∧ x.Identifies c.first 0 ∧
      x.labels.find? Label.isSlow = some (.bool false) := by
  obtain ⟨c, hc, rfl⟩ := Option.map_eq_some_iff.1 h
  refine ⟨c, hc, identifies_of_hasParties (fun name hname ↦ ?_) ?_, ?_⟩
  · have hne : ∀ other ∈ [Label.requestTid, Label.responseTid, Label.isError, Label.errorType,
        Label.isSlow, Label.protocol], other ≠ name := by
      revert name
      decide
    simp only [List.forall_mem_cons, List.not_mem_nil, false_implies, implies_true, and_true] at hne
    simp only [Record.labels_setAll, putError, Attributes.find?_putInt, Attributes.find?_putText,
      Attributes.find?_putBool, hne, if_false]
  · simp only [Record.labels_setAll, putError, Attributes.find?_putInt, Attributes.find?_putText,
      Attributes.find?_putBool]
    rfl
  · rw [Record.labels_setAll, Attributes.find?_putBool, if_pos rfl]

end Dialog

namespace Dispatcher

variable {r : Dispatcher} {l : Learned} {d : Dialog} {label : String} {records : List Record}
  {x : Record}

/-! ### Under which name a dialog is reported -/

/-- The protocol under which a dialog is reported: the one its port is bound to, else the one that
answers for it, else the generic one. -/
def protocolOf (r : Dispatcher) (l : Learned) (d : Dialog) : String :=
  match r.settings.boundProtocol? d.port with
  | some key => key
  | none => (((r.answering? l d).bind r.registry.get?).map (·.protocol.key)).getD
      Protocol.generic.key

theorem origin_protocolOf (hr : r.registry.GenericLast) (l : Learned) (d : Dialog) :
    r.Origin d (r.protocolOf l d) (r.dispatch l d).2 := by
  rw [(dispatch_spec hr l d).2]
  unfold protocolOf
  cases hanswer : r.answering? l d with
  | none =>
    simp only [Option.elim_none, unaskedRecords]
    cases hport : r.settings.boundProtocol? d.port with
    | some key => exact origin_boundRecords r d key
    | none =>
      have hreq : d.has .request = false := by
        by_contra hreq
        exact answering?_ne_none hr hport (by simpa using hreq) hanswer
      exact .unused hreq _
  | some i =>
    obtain ⟨hport, hreq, hfound⟩ := answering?_eq_some_iff.1 hanswer
    have hfound : r.recognises d i = true := hfound.elim List.find?_some fun h ↦ List.find?_some h.2
    obtain ⟨records, hrec⟩ := Option.isSome_iff_exists.1 hfound
    obtain ⟨e, he, -⟩ := Option.bind_eq_some_iff.1 hrec
    rw [hport, Option.elim_some, hrec, Option.getD_some, Option.bind_some, he]
    exact .read hreq he hrec

/-- A protocol shows as much of a payload as the registry says for its word. -/
theorem payloadLength_of_get? (s : NetworkSettings) {i : Nat} {e : Registration}
    (he : (ofSettings s).registry.get? i = some e) :
    (ofSettings s).registry.payloadLength e.protocol.key = e.payloadLength := by
  obtain ⟨k, hk, hget⟩ := exists_position?_of_get? s he
  have hindex : (ofSettings s).registry.indexOf? e.protocol.key = some k := by
    simpa only [Registry.indexOf?, Registry.position?, Wire.Protocol.key_injective.eq_iff] using hk
  rw [Registry.payloadLength, hindex, Option.bind_some, hget]
  rfl

/-! ### The records of a dialog -/

/-- What a record with a request is written from: an exchange of the dialog, and what was found in
it; and it renders that exchange, with all labels of the watcher as in the plain record. -/
def IsFaithful (s : NetworkSettings) (d : Dialog) (label : String) (length : Nat) (x : Record) :
    Prop :=
  ∃ u q found plain, d.IsExchange u ∧ u.request = some q ∧
    u.exchangeRecord? s label found length = some x ∧
    u.exchangeRecord? s label ∅ length = some plain ∧
    x.Renders s u q label length ∧
    ∀ name ∈ Label.ofWatcher, x.labels.find? name = plain.labels.find? name

theorem isFaithful_of_exchangeRecord? {s : NetworkSettings} {u : Dialog} {found : Attributes}
    {length : Nat} (hu : d.IsExchange u)
    (hfound : ∀ name ∈ Label.ofWatcher, found.find? name = none)
    (hx : u.exchangeRecord? s label found length = some x) : IsFaithful s d label length x := by
  obtain ⟨plain, hplain, hagrees⟩ := Dialog.exchangeRecord?_agrees hfound hx
  obtain ⟨q, hq, hrenders⟩ := Dialog.exchangeRecord?_renders hplain
  exact ⟨u, q, found, plain, hu, hq, hx, hplain, Dialog.renders_of_agrees hrenders hagrees, hagrees⟩

/-- **Whatever a record comes from, its labels are not those of a payload.** -/
theorem Origin.isFaithful (s : NetworkSettings) (h : (ofSettings s).Origin d label records)
    (hreq : d.has .request = true) (hx : x ∈ records) :
    IsFaithful s d label ((ofSettings s).registry.payloadLength label) x := by
  cases h with
  | unused hreq' =>
    rw [hreq] at hreq'
    cases hreq'
  | bare => exact isFaithful_of_exchangeRecord? .whole (fun _ _ ↦ rfl) (Option.mem_toList.1 hx)
  | read _ he hrec =>
    obtain ⟨u, found, hu, hfound, hrecord⟩ := shows_of_records? he hrec hx
    rw [payloadLength_of_get? s he]
    refine isFaithful_of_exchangeRecord? hu (fun name hname ↦ ?_) hrecord
    obtain ⟨-, hflag, hkind⟩ := Label.mem_ofWatcher.1 hname
    exact hfound.find?_eq_none (Label.notMem_ofReaders_of_ofWatcher hname) hflag hkind

/-- A dialog without a request gives the record of its connection. -/
theorem Origin.eq_connectRecord? (h : r.Origin d label records) (hreq : d.has .request = false) :
    records = (d.connectRecord? label).toList := by
  cases h with
  | unused => rfl
  | bare hreq' | read hreq' =>
    rw [hreq] at hreq'
    cases hreq'

/-- **No payload can forge what a record says of who asked, under which protocol and what**, in
every deployment, whatever was dispatched before and for every dialog. A record of a dialog without
a request is the one of its connection, and identifies the event that began the connection, without
a thread. Any other record is about an exchange of the dialog, identifies the event that began its
request, and names the protocol, tells whether the exchange was slow and shows both payloads as the
watcher makes them out. What was found in the payloads changes none of the labels that the plain
record of the exchange has, but the two of an error. -/
theorem dispatch_identity (s : NetworkSettings) (earlier : List Dialog) (d : Dialog) :
    let r := Dispatcher.ofSettings s
    let l := r.learnedAfter earlier
    let label := r.protocolOf l d
    ∀ x ∈ (r.dispatch l d).2,
      (d.has .request = false → d.connectRecord? label = some x ∧ x.Names label ∧
        ∃ c, d.connect = some c ∧ x.Identifies c.first 0 ∧
          x.labels.find? Label.isSlow = some (.bool false)) ∧
      (d.has .request = true → IsFaithful s d label (r.registry.payloadLength label) x) := by
  intro r l label x hx
  have hr : r.registry.GenericLast := Registry.genericLast_ofSettings s
  have horigin : r.Origin d label (r.dispatch l d).2 := origin_protocolOf hr l d
  refine ⟨fun hreq ↦ ?_, fun hreq ↦ horigin.isFaithful s hreq hx⟩
  rw [horigin.eq_connectRecord? hreq] at hx
  have hconnect : d.connectRecord? label = some x := Option.mem_toList.1 hx
  exact ⟨hconnect, (Dialog.connectRecord?_spec hconnect).1,
    Dialog.connectRecord?_identifies hconnect⟩

/-- The request of a web page gives a record that says who asked and under which protocol. -/
theorem dispatch_identity_web :
    let s : NetworkSettings := {}
    let r := Dispatcher.ofSettings s
    let l := r.learnedAfter []
    let d := Dialog.ofEvent .request (.sends webRequest 6 80) 80
    r.protocolOf l d = "http" ∧
      ∃ x ∈ (r.dispatch l d).2, IsFaithful s d "http" (r.registry.payloadLength "http") x := by
  intro s r l d
  have hprotocol : r.protocolOf l d = "http" := by decide +kernel
  have hne : (r.dispatch l d).2 ≠ [] := by decide +kernel
  obtain ⟨x, hx⟩ := List.exists_mem_of_ne_nil _ hne
  have hfaithful := (dispatch_identity s [] d x hx).2 rfl
  exact ⟨hprotocol, x, hx, hprotocol ▸ hfaithful⟩

end Dispatcher

end SocketWatch
