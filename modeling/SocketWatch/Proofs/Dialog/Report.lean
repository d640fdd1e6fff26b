import SocketWatch.Dialog.Report
import SocketWatch.Proofs.Wire.Classification
/-!
# What a record says about errors

The labels of a record are written in layers, and three of them classify it: the protocol, whether
there was an error, and which. The lowest layer says that there was none; the protocol may have
found that there was (`Attributes.Accuses`) or said nothing (`Attributes.Silent`); and a missing
response overwrites what is there, but not what the protocol found. Layer by layer it is followed
here what the three labels are in the end, and that the two that speak of errors never contradict
each other (`Record.Tells`).
-/

namespace SocketWatch

namespace Attributes

/-- Nothing is said about the protocol or about errors. -/
def Silent (a : Attributes) : Prop := ∀ name ∈ Label.classifying, a.find? name = none

/-- An error that the protocol reports, and nothing about which protocol it is. -/
structure Accuses (a : Attributes) : Prop where
  /-- The protocol is left to others to name. -/
  protocol : a.find? Label.protocol = none
  /-- There is an error. -/
  flag : a.find? Label.isError = some (.bool true)
  /-- The protocol reports it. -/
  kind : a.find? Label.errorType = some (.int (Int64.ofInt ErrorKind.protocolError.code))

theorem silent_empty : (∅ : Attributes).Silent := fun _ _ ↦ rfl

theorem Accuses.not_silent {a : Attributes} (h : a.Accuses) : ¬ a.Silent := fun hs ↦ by
  have hflag := h.flag
  rw [hs _ (by decide)] at hflag
  cases hflag

end Attributes

namespace Record

/-- The record is labelled with a protocol. -/
def Names (x : Record) (protocol : String) : Prop :=
  x.labels.find? Label.protocol = some (.text protocol)

/-- The record says of an error that it is of this kind, and whether it is one at all. -/
structure Tells (x : Record) (kind : ErrorKind) : Prop where
  /-- Whether there is an error. -/
  flag : x.labels.find? Label.isError = some (.bool (kind ≠ .noError))
  /-- Which one. -/
  kind : x.labels.find? Label.errorType = some (.int (Int64.ofInt kind.code))

instance (x : Record) (protocol : String) : Decidable (x.Names protocol) :=
  inferInstanceAs (Decidable (_ = _))

instance (x : Record) (kind : ErrorKind) : Decidable (x.Tells kind) :=
  decidable_of_iff (x.labels.find? Label.isError = some (.bool (kind ≠ .noError)) ∧
    x.labels.find? Label.errorType = some (.int (Int64.ofInt kind.code)))
    ⟨fun h ↦ ⟨h.1, h.2⟩, fun h ↦ ⟨h.flag, h.kind⟩⟩

/-- The number of a kind of error tells the kind. -/
theorem code_injective {kind kind' : ErrorKind}
    (h : Int64.ofInt kind.code = Int64.ofInt kind'.code) : kind = kind' := by
  revert h
  cases kind <;> cases kind' <;> decide

/-- **A record tells at most one kind of error.** -/
theorem Tells.unique {x : Record} {kind kind' : ErrorKind} (h : x.Tells kind)
    (h' : x.Tells kind') : kind = kind' := by
  have heq := h.kind.symm.trans h'.kind
  rw [Option.some.injEq, Attribute.int.injEq] at heq
  exact code_injective heq

@[simp] theorem labels_set (x : Record) (name : String) (value : Int) :
    (x.set name value).labels = x.labels := rfl

@[simp] theorem labels_setAll (x : Record) (values : List (String × Int)) :
    (x.setAll values).labels = x.labels := by
  induction values generalizing x with
  | nil => rfl
  | cons v values ih => exact ih (x.set v.1 v.2)

@[simp] theorem timestamp_setAll (x : Record) (values : List (String × Int)) :
    (x.setAll values).timestamp = x.timestamp := by
  induction values generalizing x with
  | nil => rfl
  | cons v values ih => exact ih (x.set v.1 v.2)

end Record

/-- The labels that every exchange has, whatever its protocol. -/
def Label.ofExchange : List String :=
  [Label.pid, Label.comm, Label.srcIp, Label.dstIp, Label.srcPort, Label.dstPort, Label.dnatIp,
    Label.dnatPort, Label.containerId, Label.isServer, Label.requestTid, Label.responseTid,
    Label.isError, Label.errorType, Label.isSlow, Label.protocol, Label.endTimestamp,
    Label.requestPayload, Label.responsePayload]

/-- The labels that tell who talked to whom. -/
def Label.ofParties : List String :=
  [Label.pid, Label.comm, Label.srcIp, Label.dstIp, Label.srcPort, Label.dstPort,
    Label.containerId, Label.isServer]

/-- The labels that tell what stands behind NAT. -/
def Label.ofTranslation : List String := [Label.dnatIp, Label.dnatPort]

/-- The labels of the payloads and of the end of the response. -/
def Label.ofPayloads : List String :=
  [Label.endTimestamp, Label.requestPayload, Label.responsePayload]

namespace Record

/-- The record tells the process, the ends and the side of an event. -/
def HasParties (x : Record) (e : Event) : Prop :=
  ∀ name ∈ Label.ofParties, x.labels.find? name = (Dialog.partyLabels e).find? name

/-- The record tells that this is behind NAT, or that nothing is. -/
structure Translates (x : Record) (target : Option FourTuple) : Prop where
  /-- The address, empty where there is none. -/
  ip : x.labels.find? Label.dnatIp = some (.text (target.elim "" (·.srcIp.text)))
  /-- The port, -1 where there is none. -/
  port : x.labels.find? Label.dnatPort =
    some (.int (Int64.ofInt (target.elim (-1) fun t ↦ t.srcPort.toNat)))

/-- The record tells when the response ended, so there was one. -/
def IsAnswered (x : Record) : Prop := x.labels.find? Label.endTimestamp ≠ none

instance (x : Record) (e : Event) : Decidable (x.HasParties e) :=
  inferInstanceAs (Decidable (∀ name ∈ Label.ofParties, _))

instance (x : Record) (target : Option FourTuple) : Decidable (x.Translates target) :=
  decidable_of_iff
    (x.labels.find? Label.dnatIp = some (.text (target.elim "" (·.srcIp.text))) ∧
      x.labels.find? Label.dnatPort =
        some (.int (Int64.ofInt (target.elim (-1) fun t ↦ t.srcPort.toNat))))
    ⟨fun h ↦ ⟨h.1, h.2⟩, fun h ↦ ⟨h.ip, h.port⟩⟩

instance (x : Record) : Decidable x.IsAnswered := inferInstanceAs (Decidable (_ ≠ _))

end Record

namespace Dialog

variable {a : Attributes} {d : Dialog} {name : String}

/-! ### The layers -/

theorem find?_putError_isError (a : Attributes) (kind : ErrorKind) :
    (putError a kind).find? Label.isError = some (.bool (kind ≠ .noError)) := by
  rw [putError, Attributes.find?_putInt, if_neg (by decide), Attributes.find?_putBool, if_pos rfl]

theorem find?_putError_errorType (a : Attributes) (kind : ErrorKind) :
    (putError a kind).find? Label.errorType = some (.int (Int64.ofInt kind.code)) := by
  rw [putError, Attributes.find?_putInt, if_pos rfl]

/-- An error is told under two names. -/
theorem find?_putError_of_ne (hflag : name ≠ Label.isError) (hkind : name ≠ Label.errorType)
    (a : Attributes) (kind : ErrorKind) : (putError a kind).find? name = a.find? name := by
  rw [putError, Attributes.find?_putInt, if_neg hkind.symm, Attributes.find?_putBool,
    if_neg hflag.symm]

/-- The payloads are under their own names. -/
theorem find?_putPayloads (hname : name ∉ Label.ofPayloads) (request : Burst) (length : Nat) :
    (putPayloads a d request length).find? name = a.find? name := by
  have hne : ∀ other ∈ Label.ofPayloads, other ≠ name := fun other hother heq ↦
    hname (heq ▸ hother)
  have hrequest : Label.requestPayload ≠ name := hne _ (by decide)
  have hresponse : Label.responsePayload ≠ name := hne _ (by decide)
  rw [putPayloads, Attributes.find?_putText, if_neg hresponse, Attributes.find?_putText,
    if_neg hrequest]
  cases d.response with
  | none => rfl
  | some b => exact a.find?_putInt _ _ _ |>.trans (if_neg (hne _ (by decide)))

/-- When the response ended is told where there is one. -/
theorem find?_putPayloads_endTimestamp (request : Burst) (length : Nat) :
    (putPayloads a d request length).find? Label.endTimestamp =
      (d.response.map fun b ↦ .int (Int64.ofInt b.lastTimestamp)).or
        (a.find? Label.endTimestamp) := by
  rw [putPayloads, Attributes.find?_putText, if_neg (by decide), Attributes.find?_putText,
    if_neg (by decide)]
  cases d.response with
  | none => rfl
  | some b => exact (a.find?_putInt _ _ _).trans (if_pos rfl)

/-- Of the outcome it is only a missing response that speaks of errors, and only where the protocol
did not. What stands behind NAT is under names of its own. -/
theorem find?_putOutcome (hname : name ∉ Label.ofTranslation) :
    (putOutcome a d).find? name =
      if !a.getBool Label.isError && d.response.isNone then (putError a .noResponse).find? name
      else a.find? name := by
  have hne : ∀ other ∈ Label.ofTranslation, other ≠ name := fun other hother heq ↦
    hname (heq ▸ hother)
  have hip : Label.dnatIp ≠ name := hne _ (by decide)
  have hport : Label.dnatPort ≠ name := hne _ (by decide)
  simp only [putOutcome]
  rw [← apply_ite fun a : Attributes ↦ a.find? name]
  generalize (if !a.getBool Label.isError && d.response.isNone then putError a .noResponse
    else a) = a'
  split
  · rw [Attributes.find?_putInt, if_neg hport, Attributes.find?_putText, if_neg hip]
  · rfl

/-- What neither speaks of errors nor of NAT is not touched by the outcome. -/
theorem find?_putOutcome_of_ne (hname : name ∉ Label.ofTranslation)
    (hflag : name ≠ Label.isError) (hkind : name ≠ Label.errorType) :
    (putOutcome a d).find? name = a.find? name := by
  rw [find?_putOutcome hname, find?_putError_of_ne hflag hkind, ite_self]

/-- **What stands behind NAT is told where there is a response.** -/
theorem find?_putOutcome_translation (a : Attributes) (d : Dialog) :
    let target := d.response.bind fun _ ↦ d.natTarget
    (putOutcome a d).find? Label.dnatIp =
        (target.map fun t ↦ .text t.srcIp.text).or (a.find? Label.dnatIp) ∧
      (putOutcome a d).find? Label.dnatPort =
        (target.map fun t ↦ .int (Int64.ofInt t.srcPort.toNat)).or (a.find? Label.dnatPort) := by
  have hkept : ∀ name ∈ Label.ofTranslation,
      (if !a.getBool Label.isError && d.response.isNone then putError a .noResponse
        else a).find? name = a.find? name := fun name hname ↦ by
    rw [apply_ite fun a : Attributes ↦ a.find? name, find?_putError_of_ne, ite_self]
    · revert name; decide
    · revert name; decide
  have hip := hkept Label.dnatIp (by decide)
  have hport := hkept Label.dnatPort (by decide)
  simp only [putOutcome]
  generalize (if !a.getBool Label.isError && d.response.isNone then putError a .noResponse
    else a) = a' at hip hport ⊢
  cases d.response with
  | none => cases d.natTarget <;> exact ⟨hip, hport⟩
  | some b =>
    cases d.natTarget with
    | none => exact ⟨hip, hport⟩
    | some t =>
      refine ⟨?_, ?_⟩
      · exact (Attributes.find?_putInt _ _ _ _).trans ((if_neg (by decide)).trans
          ((Attributes.find?_putText _ _ _ _).trans (if_pos rfl)))
      · exact (Attributes.find?_putInt _ _ _ _).trans (if_pos rfl)

/-- The two lowest layers tell who talked to whom, and that nothing is behind NAT. -/
theorem find?_exchangeLabels_of_parties (hname : name ∈ Label.ofTranslation ++ Label.ofParties)
    (s : NetworkSettings) (d : Dialog) (request : Burst) (protocol : String) :
    (exchangeLabels s d request protocol).find? name = (partyLabels request.first).find? name := by
  have hne : ∀ other ∈ [Label.requestTid, Label.responseTid, Label.isError, Label.errorType,
      Label.isSlow, Label.protocol], other ≠ name := by
    revert name
    decide
  simp only [List.forall_mem_cons, List.not_mem_nil, false_implies, implies_true, and_true] at hne
  simp only [exchangeLabels, putError, Attributes.find?_putInt, Attributes.find?_putText,
    Attributes.find?_putBool, hne, if_false]

theorem find?_partyLabels_translation (e : Event) :
    (partyLabels e).find? Label.dnatIp = some (.text "") ∧
      (partyLabels e).find? Label.dnatPort = some (.int (Int64.ofInt (-1))) := by
  refine ⟨?_, ?_⟩
  · rw [partyLabels, Attributes.find?_putBool, if_neg (by decide), Attributes.find?_putText,
      if_neg (by decide), Attributes.find?_putInt, if_neg (by decide), Attributes.find?_putText,
      if_pos rfl]
  · rw [partyLabels, Attributes.find?_putBool, if_neg (by decide), Attributes.find?_putText,
      if_neg (by decide), Attributes.find?_putInt, if_pos rfl]

/-- The lowest layer names the protocol and knows of no error. -/
theorem find?_exchangeLabels (s : NetworkSettings) (d : Dialog) (request : Burst)
    (protocol : String) :
    let a := exchangeLabels s d request protocol
    a.find? Label.protocol = some (.text protocol) ∧ a.find? Label.isError = some (.bool false) ∧
      a.find? Label.errorType = some (.int (Int64.ofInt ErrorKind.noError.code)) := by
  refine ⟨?_, ?_, ?_⟩
  · rw [exchangeLabels, Attributes.find?_putText, if_pos rfl]
  · rw [exchangeLabels, Attributes.find?_putText, if_neg (by decide), Attributes.find?_putBool,
      if_neg (by decide), find?_putError_isError]
    rfl
  · rw [exchangeLabels, Attributes.find?_putText, if_neg (by decide), Attributes.find?_putBool,
      if_neg (by decide), find?_putError_errorType]

/-! ### The records -/

variable {s : NetworkSettings} {protocol : String} {found : Attributes} {length : Nat} {x : Record}

/-- **A record of a connection that was never used** names the protocol it is given, and tells that
connecting failed. -/
theorem connectRecord?_spec (h : d.connectRecord? protocol = some x) :
    x.Names protocol ∧ x.Tells .connectFail := by
  obtain ⟨b, -, rfl⟩ := Option.map_eq_some_iff.1 h
  refine ⟨?_, ?_, ?_⟩
  · rw [Record.Names, Record.labels_setAll, Attributes.find?_putBool, if_neg (by decide),
      find?_putError_of_ne (by decide) (by decide), Attributes.find?_putText, if_pos rfl]
  · rw [Record.labels_setAll, Attributes.find?_putBool, if_neg (by decide), find?_putError_isError]
  · rw [Record.labels_setAll, Attributes.find?_putBool, if_neg (by decide),
      find?_putError_errorType]

/-- The labels of an exchange with what the protocol found written over them. -/
theorem find?_exchangeRecord? (h : d.exchangeRecord? s protocol found length = some x) :
    ∃ a : Attributes,
      a.find? Label.protocol = (found.find? Label.protocol).or (some (.text protocol)) ∧
      a.find? Label.isError = (found.find? Label.isError).or (some (.bool false)) ∧
      a.find? Label.errorType =
        (found.find? Label.errorType).or (some (.int (Int64.ofInt ErrorKind.noError.code))) ∧
      ∀ name ∈ Label.classifying, x.labels.find? name =
        if !a.getBool Label.isError && d.response.isNone then (putError a .noResponse).find? name
        else a.find? name := by
  obtain ⟨request, -, rfl⟩ := Option.map_eq_some_iff.1 h
  obtain ⟨hprotocol, hflag, hkind⟩ := find?_exchangeLabels s d request protocol
  refine ⟨putPayloads ((exchangeLabels s d request protocol).overlay found) d request length,
    ?_, ?_, ?_, fun name hname ↦ ?_⟩
  · rw [find?_putPayloads (by decide), Fields.find?_overlay, hprotocol]
  · rw [find?_putPayloads (by decide), Fields.find?_overlay, hflag]
  · rw [find?_putPayloads (by decide), Fields.find?_overlay, hkind]
  · have hother : name ∉ Label.ofTranslation := by
      revert name
      decide
    rw [Record.labels_setAll, find?_putOutcome hother]

/-- A record of an exchange names the protocol, unless what was found names another. -/
theorem exchangeRecord?_names (hfound : found.find? Label.protocol = none)
    (h : d.exchangeRecord? s protocol found length = some x) : x.Names protocol := by
  obtain ⟨a, hprotocol, -, -, hx⟩ := find?_exchangeRecord? h
  rw [hfound, Option.none_or] at hprotocol
  rw [Record.Names, hx _ (by decide), find?_putError_of_ne (by decide) (by decide), ite_self, hprotocol]

/-- **Where the protocol says nothing about errors**, the record tells whether there was a
response. -/
theorem exchangeRecord?_of_silent (hfound : found.Silent)
    (h : d.exchangeRecord? s protocol found length = some x) :
    x.Tells (if d.response.isNone then .noResponse else .noError) := by
  obtain ⟨a, -, hflag, hkind, hx⟩ := find?_exchangeRecord? h
  rw [hfound _ (by decide), Option.none_or] at hflag hkind
  have hclear : a.getBool Label.isError = false := by
    rw [Attributes.getBool, hflag]
    rfl
  rw [hclear] at hx
  cases hresponse : d.response with
  | none =>
    refine ⟨?_, ?_⟩
    · rw [hx _ (by decide), hresponse]
      exact find?_putError_isError a .noResponse
    · rw [hx _ (by decide), hresponse]
      exact find?_putError_errorType a .noResponse
  | some b =>
    refine ⟨?_, ?_⟩
    · rw [hx _ (by decide), hresponse]
      exact hflag
    · rw [hx _ (by decide), hresponse]
      exact hkind

/-- **Where the protocol reports an error**, the record tells that. -/
theorem exchangeRecord?_of_accuses (hfound : found.Accuses)
    (h : d.exchangeRecord? s protocol found length = some x) : x.Tells .protocolError := by
  obtain ⟨a, -, hflag, hkind, hx⟩ := find?_exchangeRecord? h
  rw [hfound.flag, Option.some_or] at hflag
  rw [hfound.kind, Option.some_or] at hkind
  have hset : a.getBool Label.isError = true := by
    rw [Attributes.getBool, hflag]
    rfl
  rw [hset] at hx
  refine ⟨?_, ?_⟩
  · rw [hx _ (by decide)]
    exact hflag
  · rw [hx _ (by decide)]
    exact hkind

/-- **All other labels are as the protocol found them.** -/
theorem exchangeRecord?_found (hname : name ∉ Label.ofExchange)
    (h : d.exchangeRecord? s protocol found length = some x) :
    x.labels.find? name = found.find? name := by
  obtain ⟨request, -, rfl⟩ := Option.map_eq_some_iff.1 h
  have hne : ∀ other ∈ Label.ofExchange, other ≠ name := fun other hother heq ↦
    hname (heq ▸ hother)
  simp only [Label.ofExchange, List.forall_mem_cons, List.not_mem_nil, false_implies,
    implies_true, and_true] at hne
  have hlabels : (exchangeLabels s d request protocol).find? name = none := by
    simp only [exchangeLabels, putError, partyLabels, Attributes.find?_putInt,
      Attributes.find?_putText, Attributes.find?_putBool, hne, if_false, Fields.find?_empty]
  have hpayloads : ∀ a, (putPayloads a d request length).find? name = a.find? name := fun a ↦ by
    simp only [putPayloads, Attributes.find?_putText, hne, if_false]
    cases d.response with
    | none => rfl
    | some b => simp only [Attributes.find?_putInt, hne, if_false]
  have houtcome : ∀ a, (putOutcome a d).find? name = a.find? name := fun a ↦ by
    simp only [putOutcome]
    split <;> split <;>
      simp only [putError, Attributes.find?_putInt, Attributes.find?_putText,
        Attributes.find?_putBool, hne, if_false]
  rw [Record.labels_setAll, houtcome, hpayloads, Fields.find?_overlay, hlabels, Option.or_none]

/-- **Who talked to whom is told by the first event of the request**, unless what was found tells
otherwise. -/
theorem exchangeRecord?_hasParties (hfound : ∀ name ∈ Label.ofParties, found.find? name = none)
    (h : d.exchangeRecord? s protocol found length = some x) :
    ∃ request, d.request = some request ∧ x.HasParties request.first := by
  obtain ⟨request, hrequest, rfl⟩ := Option.map_eq_some_iff.1 h
  refine ⟨request, hrequest, fun name hname ↦ ?_⟩
  have hother : name ∉ Label.ofTranslation ∧ name ∉ Label.ofPayloads ∧ name ≠ Label.isError ∧
      name ≠ Label.errorType := by
    revert name
    decide
  obtain ⟨htranslation, hpayloads, hflag, hkind⟩ := hother
  rw [Record.labels_setAll, find?_putOutcome_of_ne htranslation hflag hkind,
    find?_putPayloads hpayloads, Fields.find?_overlay, hfound name hname, Option.none_or,
    find?_exchangeLabels_of_parties (List.mem_append_right _ hname)]

/-- **An exchange with a response tells what stands behind NAT**, unless what was found does. -/
theorem exchangeRecord?_translates (hfound : ∀ name ∈ Label.ofTranslation, found.find? name = none)
    (h : d.exchangeRecord? s protocol found length = some x) :
    x.Translates (d.response.bind fun _ ↦ d.natTarget) := by
  obtain ⟨request, -, rfl⟩ := Option.map_eq_some_iff.1 h
  obtain ⟨hip, hport⟩ := find?_putOutcome_translation
    (putPayloads ((exchangeLabels s d request protocol).overlay found) d request length) d
  obtain ⟨hnoIp, hnoPort⟩ := find?_partyLabels_translation request.first
  rw [find?_putPayloads (by decide), Fields.find?_overlay, hfound _ (by decide), Option.none_or,
    find?_exchangeLabels_of_parties (by decide)] at hip hport
  rw [hnoIp] at hip
  rw [hnoPort] at hport
  refine ⟨?_, ?_⟩
  · rw [Record.labels_setAll, hip]
    cases d.response.bind fun _ ↦ d.natTarget <;> rfl
  · rw [Record.labels_setAll, hport]
    cases d.response.bind fun _ ↦ d.natTarget <;> rfl

/-- A record is answered where its exchange has a response, unless what was found says that it
is. -/
theorem exchangeRecord?_isAnswered_iff (hfound : found.find? Label.endTimestamp = none)
    (h : d.exchangeRecord? s protocol found length = some x) :
    x.IsAnswered ↔ d.response ≠ none := by
  obtain ⟨request, -, rfl⟩ := Option.map_eq_some_iff.1 h
  have hlabels : (exchangeLabels s d request protocol).find? Label.endTimestamp = none := by
    simp only [exchangeLabels, putError, partyLabels, Attributes.find?_putInt,
      Attributes.find?_putText, Attributes.find?_putBool]
    rfl
  rw [Record.IsAnswered, Record.labels_setAll,
    find?_putOutcome_of_ne (by decide) (by decide) (by decide), find?_putPayloads_endTimestamp,
    Fields.find?_overlay, hfound, hlabels]
  cases d.response <;> simp

/-- A connection that was never used was not answered. -/
theorem connectRecord?_not_isAnswered (h : d.connectRecord? protocol = some x) :
    ¬ x.IsAnswered := by
  obtain ⟨b, -, rfl⟩ := Option.map_eq_some_iff.1 h
  refine fun hanswered ↦ hanswered ?_
  rw [Record.labels_setAll]
  simp only [putError, partyLabels, Attributes.find?_putInt, Attributes.find?_putText,
    Attributes.find?_putBool]
  rfl

theorem exchangeRecord?_timestamp (h : d.exchangeRecord? s protocol found length = some x) :
    ∃ request, d.request = some request ∧ x.timestamp = request.first.startTime := by
  obtain ⟨request, hrequest, rfl⟩ := Option.map_eq_some_iff.1 h
  exact ⟨request, hrequest, Record.timestamp_setAll _ _⟩

end Dialog

end SocketWatch
