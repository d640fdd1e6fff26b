import SocketWatch.Proofs.Dispatch.Choice
import SocketWatch.Proofs.Wire.Dns
/-!
# Requests in plain text

A request in plain text, with no bytes but visible ones, spaces, tabs and line ends, is read by the
text protocols alone: HTTP, Redis, and the generic one that reads everything. The five others each
look at a byte or a number at a fixed place that no text can have there
(`Protocol.request?_of_isText`). A count of questions and the number of a call would be at least
2313, since both of their bytes are at least 9; a command, a kind of header and a magic number would
be control characters or beyond ASCII. HTTP and Redis exclude each other on any bytes, because a
request of Redis begins with an asterisk and one of HTTP with a letter (`not_http_and_redis`).

On a port that is not bound it is the readers alone that decide, so a dialog whose request is text
is reported under the name of a text protocol, whatever was learned before (`dispatch_text`). A
reader is given the request as a whole or one event after the other, and neither of the two says
what the other holds: the whole is cut at its limit, and of the events only the first are kept. So
both have to be text.
-/

namespace SocketWatch

namespace Wire

/-! ### Bytes of a text -/

/-- Whether a byte may stand in plain text: visible, a space, a tab or part of a line end. -/
def isTextByte (b : UInt8) : Bool := Ascii.isPrintable b || b = 9 || b = 10 || b = 13

/-- All bytes may stand in plain text. -/
def IsText (data : List UInt8) : Prop := ∀ b ∈ data, isTextByte b = true

instance (data : List UInt8) : Decidable (IsText data) :=
  inferInstanceAs (Decidable (∀ b ∈ data, isTextByte b = true))

theorem isTextByte_iff {b : UInt8} :
    isTextByte b = true ↔
      (32 ≤ b.toNat ∧ b.toNat ≤ 126) ∨ b.toNat = 9 ∨ b.toNat = 10 ∨ b.toNat = 13 := by
  simp [isTextByte, Ascii.isPrintable, UInt8.le_iff_toNat_le, ← UInt8.toNat_inj, or_assoc]

namespace IsText

variable {data : List UInt8} {start n : Nat}

theorem byte (h : IsText data) {b : UInt8} (hb : data[start]? = some b) :
    (32 ≤ b.toNat ∧ b.toNat ≤ 126) ∨ b.toNat = 9 ∨ b.toNat = 10 ∨ b.toNat = 13 :=
  isTextByte_iff.1 (h b (List.mem_of_getElem? hb))

/-- A number of one byte in a text is none of the small ones. -/
theorem uint?_one (h : IsText data) (hn : uint? data start 1 = some n) :
    (32 ≤ n ∧ n ≤ 126) ∨ n = 9 ∨ n = 10 ∨ n = 13 := by
  obtain ⟨b, hb, rfl⟩ := byte_of_uint?_one hn
  exact h.byte hb

/-- A number of two bytes in a text is large, though not so large that it could have a sign. -/
theorem uint?_two (h : IsText data) (hn : uint? data start 2 = some n) :
    2313 ≤ n ∧ n < Word.count 15 := by
  obtain ⟨high, low, hhigh, hlow, rfl⟩ := Wire.uint?_two hn
  have hhigh := h.byte hhigh
  have hlow := h.byte hlow
  have hcount : Word.count 15 = 32768 := by decide
  omega

theorem int?_two (h : IsText data) {i : Int} (hi : int? data start 2 = some i) : 2313 ≤ i := by
  obtain ⟨n, hn, rfl⟩ := Option.map_eq_some_iff.1 hi
  obtain ⟨hle, hlt⟩ := h.uint?_two hn
  rw [show 8 * 2 = 15 + 1 from rfl, Word.signed_of_lt hlt]
  omega

end IsText

/-! ### The readers -/

variable {m : Message}

theorem Dns.request?_of_isText (h : IsText m.data) : Dns.request? m = none := by
  refine Option.eq_none_iff_forall_ne_some.2 fun m' hread ↦ ?_
  obtain ⟨header, hh, -, hfew, -, -⟩ := Dns.request?_spec hread
  have hmany := (h.uint?_two (Dns.header?_fields hh).2.2).1
  have hle := (Dns.isPlausible_iff.1 hfew).2
  simp only [Dns.Header.records, Dns.maxRecords] at hle
  omega

theorem Mysql.request?_of_isText (h : IsText m.data) : Mysql.request? m = none := by
  unfold Mysql.request?
  simp only
  split
  · rename_i hcommand
    have := h.uint?_one hcommand
    omega
  · rename_i hcommand
    have := h.uint?_one hcommand
    omega
  · rfl

theorem Kafka.request?_of_isText (h : IsText m.data) : Kafka.request? m = none := by
  refine Option.eq_none_iff_forall_ne_some.2 fun m' hread ↦ ?_
  obtain ⟨length, -, hread⟩ := Option.bind_eq_some_iff.1 hread
  obtain ⟨apiKey, hkey, hread⟩ := Option.bind_eq_some_iff.1 hread
  obtain ⟨apiVersion, -, hread⟩ := Option.bind_eq_some_iff.1 hread
  obtain ⟨correlation, -, hread⟩ := Option.bind_eq_some_iff.1 hread
  obtain ⟨clientLength, -, hread⟩ := Option.bind_eq_some_iff.1 hread
  have hhigh : Kafka.maxApiKey < apiKey := by
    have := h.int?_two hkey
    simp only [Kafka.maxApiKey]
    omega
  simp [hhigh] at hread

theorem Dubbo.request?_of_isText (h : IsText m.data) : Dubbo.request? m = none := by
  have hframe : Dubbo.frame? m.data = none := by
    have hmagic : m.data.take 2 ≠ Dubbo.magic := fun hmagic ↦ by
      have hmem : 0xDA ∈ m.data.take 2 := hmagic ▸ List.mem_cons_self
      exact absurd (h _ (List.mem_of_mem_take hmem)) (by decide)
    rw [Dubbo.frame?, if_pos (by simp [hmagic])]
  rw [Dubbo.request?, hframe]
  rfl

theorem RocketMq.request?_of_isText (h : IsText m.data) : RocketMq.request? m = none := by
  have hheader : RocketMq.Header.ofFrame? m.data = none := by
    unfold RocketMq.Header.ofFrame?
    split
    · rfl
    · split
      · rename_i hkind
        have := h.uint?_one hkind
        omega
      · rename_i hkind
        have := h.uint?_one hkind
        omega
      · rfl
  rw [RocketMq.request?, hheader]
  rfl

/-- A request of HTTP begins with a letter. -/
theorem Http.head?_of_request? (h : (Http.request? m).isSome = true) :
    ∃ b, m.data.head? = some b ∧ Ascii.isLetter b = true := by
  obtain ⟨m', hread⟩ := Option.isSome_iff_exists.1 h
  unfold Http.request? at hread
  split at hread
  · cases hread
  · obtain ⟨⟨method, offset⟩, hmethod, -⟩ := Option.bind_eq_some_iff.1 hread
    have hword : (m.untilBlankWithin 0 8).2 ∈ ("ET" :: Http.methods).map Ascii.bytes := by
      unfold Http.method? at hmethod
      simp only at hmethod
      split at hmethod
      · rename_i name hfound
        have hname : Ascii.bytes name = (m.untilBlankWithin 0 8).2 := by
          simpa using List.find?_some hfound
        have hmem : name ∈ Http.methods := List.mem_of_find?_eq_some hfound
        exact List.mem_map.2 ⟨name, List.mem_cons_of_mem _ hmem, hname⟩
      · split at hmethod
        · rename_i hrest
          simp only [Bool.and_eq_true, decide_eq_true_eq] at hrest
          exact List.mem_map.2 ⟨"ET", List.mem_cons_self, hrest.1.1.symm⟩
        · cases hmethod
    have hletter : ∀ w ∈ ("ET" :: Http.methods).map Ascii.bytes,
        ∃ b, w.head? = some b ∧ Ascii.isLetter b = true := by
      simp only [← Option.any_eq_true]
      decide
    obtain ⟨b, hb, hletter⟩ := hletter _ hword
    obtain ⟨rest, hrest⟩ := Dns.prefix_untilBlankWithin m 8
    exact ⟨b, by rw [← hrest, List.head?_append, hb]; rfl, hletter⟩

/-- A request of Redis begins with an asterisk. -/
theorem Redis.head?_of_request? (h : (Redis.request? m).isSome = true) :
    m.data.head? = some 0x2A := by
  obtain ⟨m', hread⟩ := Option.isSome_iff_exists.1 h
  obtain ⟨⟨word, rest⟩, hcommand, -⟩ := Option.bind_eq_some_iff.1 hread
  obtain ⟨⟨count, rest'⟩, hcount, -⟩ := Option.bind_eq_some_iff.1 hcommand
  unfold Redis.marked? at hcount
  split at hcount
  · cases hcount
  · split at hcount
    · rename_i hdata hmark
      rw [hdata, List.head?_cons, hmark]
    · cases hcount

/-- **HTTP and Redis never both read a request.** -/
theorem not_http_and_redis (m : Message) :
    ¬ ((Http.request? m).isSome = true ∧ (Redis.request? m).isSome = true) := by
  rintro ⟨hhttp, hredis⟩
  obtain ⟨b, hb, hletter⟩ := Http.head?_of_request? hhttp
  obtain rfl : 0x2A = b := Option.some.inj ((Redis.head?_of_request? hredis).symm.trans hb)
  exact absurd hletter (by decide)

namespace Protocol

/-- The protocols whose requests are not text. -/
def binary : List Protocol := [.dns, .mysql, .kafka, .dubbo, .rocketmq]

/-- The other ones. -/
def textual : List Protocol := [.http, .redis, .generic]

theorem request?_of_isText {p : Protocol} (hp : p ∈ binary) (h : IsText m.data) :
    p.request? m = none := by
  cases p with
  | dns => exact Dns.request?_of_isText h
  | mysql => exact Mysql.request?_of_isText h
  | kafka => exact Kafka.request?_of_isText h
  | dubbo => exact Dubbo.request?_of_isText h
  | rocketmq => exact RocketMq.request?_of_isText h
  | http | redis | generic => exact absurd hp (by decide)

/-- **What reads a text is a text protocol.** -/
theorem mem_textual_of_isText {p : Protocol} (h : IsText m.data)
    (hread : (p.request? m).isSome = true) : p ∈ textual := by
  have hp : p ∉ binary := fun hp ↦ by
    rw [request?_of_isText hp h] at hread
    cases hread
  revert hp
  cases p <;> decide

end Protocol

end Wire

namespace Dispatcher

open Wire (IsText Message Protocol)

variable {r : Dispatcher} {l : Learned} {d : Dialog} {records : List Record}

/-- On a port that is not bound, a dialog with a request has the records of the protocol that
recognises it. -/
theorem Resolution.exists_records? {l' : Learned} {found : Option Nat}
    (h : r.Resolution l d found l' records) (hport : r.settings.boundProtocol? d.port = none)
    (hreq : d.has .request = true) : ∃ i, r.records? d i = some records := by
  cases h with
  | bound hport' =>
    rw [hport] at hport'
    cases hport'
  | unused _ hreq' =>
    rw [hreq] at hreq'
    cases hreq'
  | cached _ _ _ hrec => exact ⟨_, hrec⟩
  | scanned _ _ _ _ hrec => exact ⟨_, hrec⟩

/-- What is read in an exchange of a dialog is its request as a whole, or one of its events. -/
theorem isText_of_isExchange {u : Dialog} (hu : d.IsExchange u) {requests q : Burst}
    (hd : d.request = some requests) (hwhole : IsText requests.data)
    (hevents : ∀ e ∈ requests.events, IsText e.data) (hq : u.request = some q) :
    IsText q.data := by
  cases hu with
  | whole =>
    obtain rfl := Option.some.inj (hd.symm.trans hq)
    exact hwhole
  | @asked _ hd' e he | @answered _ _ hd' _ e _ he =>
    obtain rfl := Option.some.inj (hd.symm.trans hd')
    obtain rfl : Burst.ofEvent e requests.limit = q := Option.some.inj hq
    exact hevents e he

/-- **A protocol that gives a record of a dialog whose request is text is a text protocol.** -/
theorem mem_textual_of_records? {i : Nat} {e : Registration} {x : Record} {requests : Burst}
    (he : r.registry.get? i = some e) (hrec : r.records? d i = some records) (hx : x ∈ records)
    (hd : d.request = some requests) (hwhole : IsText requests.data)
    (hevents : ∀ e ∈ requests.events, IsText e.data) : e.protocol ∈ Protocol.textual := by
  obtain ⟨u, found, hu, hfound, hrecord⟩ := shows_of_records? he hrec hx
  obtain ⟨q, hq, -⟩ := Option.map_eq_some_iff.1 hrecord
  obtain ⟨transport, hread⟩ := hfound.exists_request? hq
  have htext : IsText q.data := isText_of_isExchange hu hd hwhole hevents hq
  exact Protocol.mem_textual_of_isText (m := { data := q.data, transport }) htext hread

/-- **Requests in plain text belong to the text protocols**, in every deployment and whatever was
dispatched before. On any transport, none of the five binary protocols reads such a request, and
HTTP and Redis do not both read it. So all records of a dialog with such a request, on a port that
is bound to no protocol, name one protocol that is HTTP, Redis or the generic one; and there is a
record, if events made the dialog. -/
theorem dispatch_text (s : NetworkSettings) :
    (∀ m : Message, IsText m.data →
      (∀ p ∈ [Protocol.dns, .mysql, .kafka, .dubbo, .rocketmq], p.request? m = none) ∧
        ¬ ((Protocol.http.request? m).isSome = true ∧ (Protocol.redis.request? m).isSome = true)) ∧
    ∀ (earlier : List Dialog) (d : Dialog) (requests : Burst),
      (∀ p ∈ s.tuning, d.port ∉ p.ports) → d.request = some requests → IsText requests.data →
      (∀ e ∈ requests.events, IsText e.data) →
        let r := Dispatcher.ofSettings s
        let records := (r.dispatch (r.learnedAfter earlier) d).2
        (∃ p ∈ [Protocol.http, .redis, .generic], ∀ x ∈ records, x.Names p.key) ∧
          (d.Built → records ≠ []) := by
  refine ⟨fun m hm ↦ ⟨fun p hp ↦ Protocol.request?_of_isText hp hm, Wire.not_http_and_redis m⟩,
    fun earlier d requests hunbound hd hwhole hevents ↦ ?_⟩
  intro r records
  have hr : r.registry.GenericLast := Registry.genericLast_ofSettings s
  have hport : r.settings.boundProtocol? d.port = none :=
    NetworkSettings.boundProtocol?_of_unbound hunbound
  have hreq : d.has .request = true := Option.isSome_of_eq_some hd
  obtain ⟨i, hrec⟩ := (dispatch_resolution hr (r.learnedAfter earlier) d).exists_records? hport hreq
  obtain ⟨e, he, -⟩ := Option.bind_eq_some_iff.1 hrec
  have horigin : r.Origin d e.protocol.key records := .read hreq he hrec
  refine ⟨?_, fun hbuilt ↦ horigin.ne_nil hbuilt (.inl hreq)⟩
  by_cases hnil : records = []
  · exact ⟨.generic, by decide, fun x hx ↦ absurd (hnil ▸ hx) List.not_mem_nil⟩
  · obtain ⟨x, hx⟩ := List.exists_mem_of_ne_nil records hnil
    have hp := mem_textual_of_records? he hrec hx hd hwhole hevents
    exact ⟨e.protocol, hp, fun y hy ↦ horigin.names hy⟩

/-- Where binary protocols are asked first and the generic one is cached for another port, the
request of a web page still gives a record of HTTP. -/
theorem dispatch_text_web :
    let s : NetworkSettings := { protocols := ["dns", "kafka", "rocketmq", "redis", "http"] }
    let r := Dispatcher.ofSettings s
    let unknown := Dialog.ofEvent .request (.sample "write" 1000) 80
    let web := Event.sends webRequest 6 81
    let d := Dialog.ofEvent .request web 80
    let l := r.learnedAfter (List.replicate 50 unknown)
    (IsText web.data ∧ d.request = some (.ofEvent web 80) ∧ d.Built) ∧
      ((∃ p ∈ [Protocol.http, .redis, .generic], ∀ x ∈ (r.dispatch l d).2, x.Names p.key) ∧
        (r.dispatch l d).2 ≠ []) ∧
      (r.dispatch l d).2.all (fun x ↦ x.Names "http") = true := by
  intro s r unknown web d l
  have htext : IsText web.data := by decide +kernel
  have hbuilt : d.Built := Dialog.built_ofEvent .request web 80
  have hd : d.request = some (.ofEvent web 80) := rfl
  obtain ⟨hnames, hne⟩ := (dispatch_text s).2 (List.replicate 50 unknown) d (.ofEvent web 80)
    (by decide +kernel) hd htext fun e he ↦ List.mem_singleton.1 he ▸ htext
  exact ⟨⟨htext, hd, hbuilt⟩, ⟨hnames, hne hbuilt⟩, by decide +kernel⟩

end Dispatcher

end SocketWatch
