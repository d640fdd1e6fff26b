import SocketWatch.Connect.Monitor
import SocketWatch.Proofs.Ipv4
/-!
# The tuple of a connection, as probes and as sockets give it

Kernel probes attach the tuple of a connection number by number and are free in how they write each;
a system call has it in the socket it works on. Both must come to the same tuple, or the event of one
does not find the attempt that the other opened.

`Attribute.IsAddress` and `Attribute.IsPort` say in which forms an attribute gives an address or a
port, and an attribute is read as one exactly if it has one of them (`ipv4?_eq_some_iff`,
`port?_eq_some_iff`): numbers out of range, signed ones below zero among them, and texts that are
neither dotted nor decimal are refused.
-/

namespace SocketWatch

/-! ### Attributes -/

namespace Attribute

/-- An attribute that gives a number, signed or unsigned or as a text in decimal. -/
inductive IsNumber (n : Nat) : Attribute → Prop
  | int {v : Int64} (hvalue : v.toInt = n) : IsNumber n (.int v)
  | word {v : UInt64} (hvalue : v.toNat = n) : IsNumber n (.word v)
  | text {s : String} (hdecimal : Numeral.IsDecimal n s.toList) : IsNumber n (.text s)

/-- An attribute that gives an address: as its text, or as a number in host order. -/
inductive IsAddress (ip : Ipv4) : Attribute → Prop
  | int {v : Int64} (hvalue : v.toInt = ip.word.toNat) : IsAddress ip (.int v)
  | word {v : UInt64} (hvalue : v.toNat = ip.word.toNat) : IsAddress ip (.word v)
  | text : IsAddress ip (.text ip.text)

/-- An attribute that gives a port. -/
def IsPort (port : UInt16) (a : Attribute) : Prop := a.IsNumber port.toNat

variable {a : Attribute}

theorem uint64?_int {v : Int64} {w : UInt64} :
    (Attribute.int v).uint64? = some w ↔ v.toInt = w.toNat := by
  have hlt := v.toInt_lt
  rw [uint64?]
  split
  · have hvalue : (UInt64.ofNat v.toInt.toNat).toNat = v.toInt.toNat :=
      UInt64.toNat_ofNat_of_lt' (by show _ < 18446744073709551616; omega)
    rw [Option.some_inj, ← UInt64.toNat_inj, hvalue]
    omega
  · refine ⟨nofun, fun h ↦ ?_⟩
    omega

theorem uint64?_text {s : String} {w : UInt64} :
    (Attribute.text s).uint64? = some w ↔ Numeral.IsDecimal w.toNat s.toList := by
  have hlt := w.toNat_lt
  have hcount : Word.count 64 = 18446744073709551616 := by decide
  rw [uint64?, Option.map_eq_some_iff, ← Numeral.nat?_eq_some_iff]
  simp only [Numeral.word?, Option.filter_eq_some_iff, decide_eq_true_eq, hcount]
  constructor
  · rintro ⟨n, ⟨hread, hn⟩, rfl⟩
    rwa [UInt64.toNat_ofNat_of_lt' hn]
  · exact fun hread ↦ ⟨_, ⟨hread, hlt⟩, UInt64.ofNat_toNat⟩

/-- **An attribute is read as a number exactly if it gives that number.** -/
theorem uint64?_eq_some_iff {w : UInt64} : a.uint64? = some w ↔ a.IsNumber w.toNat := by
  cases a with
  | bool b => exact ⟨nofun, nofun⟩
  | int v => exact ⟨fun h ↦ .int (uint64?_int.1 h), fun | .int h => uint64?_int.2 h⟩
  | word v =>
    rw [uint64?, Option.some_inj, ← UInt64.toNat_inj]
    exact ⟨.word, fun | .word h => h⟩
  | text s => exact ⟨fun h ↦ .text (uint64?_text.1 h), fun | .text h => uint64?_text.2 h⟩

theorem port?_eq_some_iff {port : UInt16} : a.port? = some port ↔ a.IsPort port := by
  have hlt := port.toNat_lt
  have hcount : Word.count 16 = 65536 := by decide
  rw [port?, Option.map_eq_some_iff]
  simp only [Option.filter_eq_some_iff, decide_eq_true_eq, hcount, uint64?_eq_some_iff]
  constructor
  · rintro ⟨w, ⟨hnumber, hsmall⟩, rfl⟩
    rwa [IsPort, UInt64.toNat_toUInt16, Nat.mod_eq_of_lt hsmall]
  · intro hport
    refine ⟨port.toUInt64, ⟨?_, ?_⟩, ?_⟩
    · rwa [UInt16.toNat_toUInt64]
    · rwa [UInt16.toNat_toUInt64]
    · exact UInt16.toUInt16_toUInt64 port

theorem ipv4?_eq_some_iff {ip : Ipv4} : a.ipv4? = some ip ↔ a.IsAddress ip := by
  have hlt := ip.word.toNat_lt
  have hcount : Word.count 32 = 4294967296 := by decide
  -- what holds of the two kinds of numbers
  have hnumber : ((a.uint64?.filter fun v ↦ v.toNat < Word.count 32).map fun v ↦
      (⟨v.toUInt32⟩ : Ipv4)) = some ip ↔ a.IsNumber ip.word.toNat := by
    rw [Option.map_eq_some_iff]
    simp only [Option.filter_eq_some_iff, decide_eq_true_eq, hcount, uint64?_eq_some_iff]
    constructor
    · rintro ⟨w, ⟨hnumber, hsmall⟩, rfl⟩
      rwa [UInt64.toNat_toUInt32, Nat.mod_eq_of_lt hsmall]
    · intro hnumber
      refine ⟨ip.word.toUInt64, ⟨?_, ?_⟩, ?_⟩
      · rwa [UInt32.toNat_toUInt64]
      · rwa [UInt32.toNat_toUInt64]
      · rw [UInt32.toUInt32_toUInt64]
  cases a with
  | bool b => exact ⟨nofun, nofun⟩
  | int v => exact hnumber.trans ⟨fun | .int h => .int h, fun | .int h => .int h⟩
  | word v => exact hnumber.trans ⟨fun | .word h => .word h, fun | .word h => .word h⟩
  | text s =>
    rw [ipv4?, Ipv4.parse?_eq_some_iff]
    exact ⟨fun h ↦ h ▸ .text, fun | .text => rfl⟩

end Attribute

/-! ### Events -/

namespace Event

variable {e : Event} {t : FourTuple}

/-- The probe attached an address under a name. -/
def AttachesIp (e : Event) (name : String) (ip : Ipv4) : Prop :=
  ∃ a, e.attribute? name = some a ∧ a.IsAddress ip

/-- The probe attached a port under a name. -/
def AttachesPort (e : Event) (name : String) (port : UInt16) : Prop :=
  ∃ a, e.attribute? name = some a ∧ a.IsPort port

/-- The probe attached a tuple. -/
structure Attaches (e : Event) (t : FourTuple) : Prop where
  /-- The source address, in one of its forms. -/
  srcIp : e.AttachesIp "sip" t.srcIp
  /-- The source port. -/
  srcPort : e.AttachesPort "sport" t.srcPort
  /-- The destination address. -/
  dstIp : e.AttachesIp "dip" t.dstIp
  /-- The destination port. -/
  dstPort : e.AttachesPort "dport" t.dstPort

/-- A part of the tuple is not there, or is in none of the forms of an address or a port. -/
def LacksPart (e : Event) : Prop :=
  (¬∃ ip, e.AttachesIp "sip" ip) ∨ (¬∃ port, e.AttachesPort "sport" port) ∨
    (¬∃ ip, e.AttachesIp "dip" ip) ∨ ¬∃ port, e.AttachesPort "dport" port

/-- The event is on a socket with this tuple. -/
def IsOn (e : Event) (t : FourTuple) : Prop :=
  ∃ s, e.socket = some s ∧ s.srcIp = some t.srcIp ∧ s.srcPort = t.srcPort ∧
    s.dstIp = some t.dstIp ∧ s.dstPort = t.dstPort

theorem ipv4?_attribute?_eq_some_iff {name : String} {ip : Ipv4} :
    (e.attribute? name).bind (·.ipv4?) = some ip ↔ e.AttachesIp name ip := by
  simp only [Option.bind_eq_some_iff, Attribute.ipv4?_eq_some_iff, AttachesIp]

theorem port?_attribute?_eq_some_iff {name : String} {port : UInt16} :
    (e.attribute? name).bind (·.port?) = some port ↔ e.AttachesPort name port := by
  simp only [Option.bind_eq_some_iff, Attribute.port?_eq_some_iff, AttachesPort]

/-- **What a probe attached is read as a tuple exactly if each part of it was attached.** -/
theorem attachedTuple?_eq_some_iff : e.attachedTuple? = some t ↔ e.Attaches t := by
  constructor
  · intro h
    obtain ⟨srcIp, hsrcIp, h⟩ := Option.bind_eq_some_iff.1 h
    obtain ⟨srcPort, hsrcPort, h⟩ := Option.bind_eq_some_iff.1 h
    obtain ⟨dstIp, hdstIp, h⟩ := Option.bind_eq_some_iff.1 h
    obtain ⟨dstPort, hdstPort, h⟩ := Option.bind_eq_some_iff.1 h
    cases h
    exact ⟨ipv4?_attribute?_eq_some_iff.1 hsrcIp, port?_attribute?_eq_some_iff.1 hsrcPort,
      ipv4?_attribute?_eq_some_iff.1 hdstIp, port?_attribute?_eq_some_iff.1 hdstPort⟩
  · rintro ⟨hsrcIp, hsrcPort, hdstIp, hdstPort⟩
    simp only [attachedTuple?, ipv4?_attribute?_eq_some_iff.2 hsrcIp,
      port?_attribute?_eq_some_iff.2 hsrcPort, ipv4?_attribute?_eq_some_iff.2 hdstIp,
      port?_attribute?_eq_some_iff.2 hdstPort]
    rfl

theorem attachedTuple?_eq_none_iff : e.attachedTuple? = none ↔ e.LacksPart := by
  rw [Option.eq_none_iff_forall_ne_some]
  simp only [ne_eq, attachedTuple?_eq_some_iff]
  constructor
  · intro hnone
    by_contra hall
    simp only [LacksPart, not_or, not_not] at hall
    obtain ⟨⟨srcIp, hsrcIp⟩, ⟨srcPort, hsrcPort⟩, ⟨dstIp, hdstIp⟩, ⟨dstPort, hdstPort⟩⟩ := hall
    exact hnone ⟨srcIp, srcPort, dstIp, dstPort⟩ ⟨hsrcIp, hsrcPort, hdstIp, hdstPort⟩
  · rintro hlacks t ⟨hsrcIp, hsrcPort, hdstIp, hdstPort⟩
    rcases hlacks with h | h | h | h
    · exact h ⟨_, hsrcIp⟩
    · exact h ⟨_, hsrcPort⟩
    · exact h ⟨_, hdstIp⟩
    · exact h ⟨_, hdstPort⟩

theorem socketTuple_of_isOn (h : e.IsOn t) : e.socketTuple = .ok t := by
  obtain ⟨s, hs, hsrcIp, hsrcPort, hdstIp, hdstPort⟩ := h
  simp [socketTuple, srcIp, dstIp, srcPort, dstPort, hs, hsrcIp, hsrcPort, hdstIp, hdstPort]

/-- **A kernel probe and a system call give the same tuple of a connection**, whatever form the probe
chose for each part of it. What a probe attached is refused exactly if a part is not there or is in
none of the forms. -/
theorem tuples_agree :
    (∀ (e c : Event) (t : FourTuple), e.Attaches t → c.IsOn t →
      e.attachedTuple = .ok t ∧ c.socketTuple = .ok t) ∧
    ∀ (e : Event) (error : MonitorError),
      e.attachedTuple = .error error ↔ error = .missingTuple e.name ∧ e.LacksPart := by
  refine ⟨fun e c t he hc ↦ ⟨?_, socketTuple_of_isOn hc⟩, fun e error ↦ ?_⟩
  · rw [attachedTuple, attachedTuple?_eq_some_iff.2 he]
  · rw [attachedTuple, ← attachedTuple?_eq_none_iff]
    cases e.attachedTuple? with
    | none => simp [eq_comm]
    | some t => simp

/-- A connect of 10.0.0.1:40000 to 10.0.0.2:80, in three forms. One more than the last port is
refused. -/
theorem tuples_agree_mixed :
    let t : FourTuple := ⟨.ofOctets 10 0 0 1, 40000, .ofOctets 10 0 0 2, 80⟩
    let kernel (port : UInt64) : Event :=
      { name := "tcp_connect", timestamp := 1
        attributes := Fields.ofList [("sip", .text "10.0.0.1"), ("sport", .text "+040000"),
          ("dip", .int 0x0A000002), ("dport", .word port)] }
    let socket : Socket :=
      { num := 3, srcIp := t.srcIp, srcPort := t.srcPort, dstIp := t.dstIp, dstPort := t.dstPort }
    let call : Event := { name := "connect", timestamp := 2, context := some { socket } }
    ((kernel 80).Attaches t ∧ call.IsOn t) ∧
      ((kernel 80).attachedTuple = .ok t ∧ call.socketTuple = .ok t) ∧
      (kernel 65536).attachedTuple = .error (.missingTuple "tcp_connect") := by
  intro t kernel socket call
  have hkernel : (kernel 80).Attaches t := attachedTuple?_eq_some_iff.1 (by decide +kernel)
  have hcall : call.IsOn t := ⟨_, rfl, rfl, rfl, rfl, rfl⟩
  have hlacks : (kernel 65536).LacksPart := attachedTuple?_eq_none_iff.1 (by decide +kernel)
  exact ⟨⟨hkernel, hcall⟩, tuples_agree.1 _ _ _ hkernel hcall,
    (tuples_agree.2 _ _).2 ⟨rfl, hlacks⟩⟩

end Event

end SocketWatch
