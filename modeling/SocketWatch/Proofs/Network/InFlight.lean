import SocketWatch.Proofs.Dispatch.Learned
import SocketWatch.Proofs.Network.DnsRound
import SocketWatch.Proofs.Traverse
/-!
# DNS queries in flight

A conversation of DNS goes in rounds: queries, then answers, then queries again. The store makes one
dialog of each round, because a query after an answer begins a new one, and in the default
deployment every such dialog is dispatched to DNS (`Round.IsDns.dispatch`). On a port that is bound
to DNS this is immediate; on any other it is kept up by an invariant, that nothing but DNS is cached
for the port. So every query of a conversation has one record, which carries its answer
(`NetworkWatcher.inflight_reported`).

That an answer comes in the round of its query is a condition, and so is that each query is answered
at most once and that a round has no more queries than a burst keeps. Where one of them fails, some
query has no record of its own, or one without its answer (`NetworkWatcher.inflight_unreported`).
-/

namespace SocketWatch

open Wire

/-! ### What the records say -/

/-- A record reports an exchange of DNS: the query with its transaction, and its answer with the
outcome, or that there was none. -/
structure Exchange.IsReported (x : Exchange) (y : Record) : Prop where
  /-- The protocol is named. -/
  protocol : y.Names Protocol.dns.key
  /-- It is the query's time. -/
  begun : y.timestamp = x.query.startTime
  /-- It is the query's transaction. -/
  query : ∃ id, Dns.queryId? x.query.data = some id ∧
    y.labels.find? Label.dnsId = some (.int (Int64.ofInt id))
  /-- An answer is shown by its outcome, which decides whether it is an error. -/
  answered : ∀ a, x.answer = some a → ∃ id rcode, Dns.outcome? a.data = some (id, rcode) ∧
    y.labels.find? Label.dnsRcode = some (.int (Int64.ofInt rcode)) ∧
    y.Tells (if rcode = 0 then .noError else .protocolError)
  /-- Where there is none, the record tells that. -/
  unanswered : x.answer = none →
    y.labels.find? Label.dnsRcode = none ∧ y.Tells .noResponse

/-- Every exchange has one record, which begins with the query. -/
theorem Dispatcher.exchangeRecords_eq {r : Dispatcher} {e : Registration} (d : Dialog)
    (limit : Nat) (ask reply : Event → Message) (x : Exchange) :
    ∃ y, r.exchangeRecords e d limit ask reply x = [y] ∧ y.timestamp = x.query.startTime ∧
      (Dialog.single x.query x.answer d.natTarget limit).exchangeRecord? r.settings
        e.protocol.key (x.found ask reply) e.payloadLength = some y := by
  obtain ⟨y, hy⟩ : ∃ y, (Dialog.single x.query x.answer d.natTarget limit).exchangeRecord?
      r.settings e.protocol.key (x.found ask reply) e.payloadLength = some y := ⟨_, rfl⟩
  obtain ⟨request, hrequest, htime⟩ := Dialog.exchangeRecord?_timestamp hy
  refine ⟨y, ?_, ?_, hy⟩
  · rw [exchangeRecords, unitRecords, hy]
    rfl
  · rw [htime, ← Option.some.inj hrequest]
    rfl

namespace Exchange

variable {x : Exchange} {y : Record} {s : NetworkSettings} {natTarget : Option FourTuple}
  {limit length id : Nat}

/-- Without an answer the record shows the query, which says nothing about errors. -/
theorem isReported_of_unanswered (ha : x.answer = none)
    (hid : Dns.queryId? x.query.data = some id) (hbegun : y.timestamp = x.query.startTime)
    (hy : (Dialog.single x.query none natTarget limit).exchangeRecord? s Protocol.dns.key
      (Round.askedAs x.query).attributes length = some y) : x.IsReported y := by
  obtain ⟨hread, hquery, hrcode⟩ := Round.askedAs_spec hid
  have hsilent := (Dns.keeps_of_request? hread).silent Attributes.silent_empty
  refine ⟨Dialog.exchangeRecord?_names (hsilent _ (by decide)) hy, hbegun, ⟨id, hid, ?_⟩,
    fun a ha' ↦ ?_, fun _ ↦ ⟨?_, Dialog.exchangeRecord?_of_silent hsilent hy⟩⟩
  · rw [Dialog.exchangeRecord?_found (by decide) hy, hquery]
  · rw [ha] at ha'
    cases ha'
  · rw [Dialog.exchangeRecord?_found (by decide) hy, hrcode]

/-- With an answer it shows both, and the answer decides whether there is an error. -/
theorem isReported_of_answered {a : Event} {rcode : Nat} (ha : x.answer = some a)
    (hid : Dns.queryId? x.query.data = some id) (hout : Dns.outcome? a.data = some (id, rcode))
    (hbegun : y.timestamp = x.query.startTime)
    (hy : (Dialog.single x.query (some a) natTarget limit).exchangeRecord? s Protocol.dns.key
      ((Round.askedAs x.query).attributes.overlay (Round.answeredAs a).attributes) length =
        some y) : x.IsReported y := by
  obtain ⟨hread, -, -⟩ := Round.askedAs_spec hid
  obtain ⟨-, hanswer, hrcode, hkind⟩ := Round.answeredAs_spec hout
  have hsilent := (Dns.keeps_of_request? hread).silent Attributes.silent_empty
  have hunnamed : ((Round.askedAs x.query).attributes.overlay
      (Round.answeredAs a).attributes).find? Label.protocol = none := by
    split at hkind
    · exact (hsilent.overlay hkind) _ (by decide)
    · exact (hkind.overlay hsilent).protocol
  have htells : y.Tells (if rcode = 0 then .noError else .protocolError) := by
    split at hkind
    · rename_i hzero
      rw [if_pos hzero]
      exact Dialog.exchangeRecord?_of_silent (hsilent.overlay hkind) hy
    · rename_i hzero
      rw [if_neg hzero]
      exact Dialog.exchangeRecord?_of_accuses (hkind.overlay hsilent) hy
  refine ⟨Dialog.exchangeRecord?_names hunnamed hy, hbegun, ⟨id, hid, ?_⟩, fun a' ha' ↦ ?_,
    fun hnone ↦ ?_⟩
  · rw [Dialog.exchangeRecord?_found (by decide) hy, Fields.find?_overlay, hanswer]
    rfl
  · obtain rfl : a = a' := Option.some.inj (ha.symm.trans ha')
    refine ⟨id, rcode, hout, ?_, htells⟩
    rw [Dialog.exchangeRecord?_found (by decide) hy, Fields.find?_overlay, hrcode]
    rfl
  · rw [ha] at hnone
    cases hnone

end Exchange

/-- **Every exchange of a round has one record, which reports it.** -/
theorem Round.IsDns.exists_report {ρ : Round} {r : Dispatcher} {e : Registration} {k : DialogKey}
    (h : ρ.IsDns k) (hp : e.protocol = .dns) (d : Dialog) (limit : Nat) {x : Exchange}
    (hx : x ∈ ρ.exchanges) :
    ∃ y, r.exchangeRecords e d limit askedAs answeredAs x = [y] ∧ x.IsReported y := by
  obtain ⟨-, id, hid, hanswer⟩ := h.exchange_spec hx
  obtain ⟨y, hrecords, hbegun, hy⟩ :=
    Dispatcher.exchangeRecords_eq (r := r) (e := e) d limit askedAs answeredAs x
  refine ⟨y, hrecords, ?_⟩
  rw [hp, Exchange.found] at hy
  cases ha : x.answer with
  | none =>
    rw [ha] at hy
    exact Exchange.isReported_of_unanswered ha hid hbegun hy
  | some a =>
    rw [ha] at hy
    obtain ⟨rcode, hout⟩ := hanswer a ha
    exact Exchange.isReported_of_answered ha hid hout hbegun hy

/-! ### What the records of several exchanges say -/

/-- Records report exchanges: each exchange has one of them, and there are no others. -/
def Exchange.AreReported (exchanges : List Exchange) (records : List Record) : Prop :=
  ∃ reports, records.Perm reports ∧ List.Forall₂ Exchange.IsReported exchanges reports

theorem Exchange.AreReported.append {xs xs' : List Exchange} {records records' : List Record}
    (h : AreReported xs records) (h' : AreReported xs' records') :
    AreReported (xs ++ xs') (records ++ records') := by
  obtain ⟨reports, hperm, hreports⟩ := h
  obtain ⟨reports', hperm', hreports'⟩ := h'
  exact ⟨reports ++ reports', hperm.append hperm', List.rel_append hreports hreports'⟩

theorem Exchange.AreReported.length_eq {xs : List Exchange} {records : List Record}
    (h : AreReported xs records) : records.length = xs.length := by
  obtain ⟨reports, hperm, hreports⟩ := h
  rw [hperm.length_eq, hreports.length_eq]

theorem Exchange.AreReported.exists_mem {xs : List Exchange} {records : List Record}
    (h : AreReported xs records) {x : Exchange} (hx : x ∈ xs) : ∃ y ∈ records, x.IsReported y := by
  obtain ⟨reports, hperm, hreports⟩ := h
  obtain ⟨y, hy, hreported⟩ := exists_mem_of_forall₂ hreports.flip hx
  exact ⟨y, hperm.mem_iff.2 hy, hreported⟩

/-- **DNS reports the exchanges of a round.** -/
theorem Round.IsDns.areReported {ρ : Round} {r : Dispatcher} {e : Registration} {i limit : Nat}
    {pid : UInt32} {fd : Int32} {srcIp dstIp : Ipv4} {srcPort dstPort : UInt16}
    (h : ρ.IsDns (.udp pid fd srcIp dstIp srcPort dstPort)) (he : r.registry.get? i = some e)
    (hp : e.protocol = .dns) :
    ∃ records, r.records? (ρ.dialog limit) i = some records ∧
      Exchange.AreReported ρ.exchanges records := by
  obtain ⟨records, hrecords, hperm⟩ := h.records?_dns he hp
  exact ⟨records, hrecords, _, hperm, forall₂_flatMap fun x hx ↦ h.exists_report hp _ _ hx⟩

/-! ### Rounds in the default deployment -/

namespace Dispatcher

/-- Of a default deployment it is known which protocols are asked before DNS. -/
theorem ofSettings_default :
    let r := Dispatcher.ofSettings {}
    (∃ e, r.registry.get? 0 = some e ∧ e.protocol = .http) ∧
      (∃ e, r.registry.get? 1 = some e ∧ e.protocol = .mysql) ∧
      (∃ e, r.registry.get? 2 = some e ∧ e.protocol = .dns) ∧
      (∃ rest, r.registry.scanOrder = 0 :: 1 :: 2 :: rest) ∧
      r.registry.indexOf? Protocol.dns.key = some 2 ∧ r.isGeneric 2 = false := by
  refine ⟨⟨_, rfl, rfl⟩, ⟨_, rfl, rfl⟩, ⟨_, rfl, rfl⟩, ⟨_, rfl⟩, ?_, rfl⟩
  decide +kernel

variable {r : Dispatcher} {d : Dialog} {i : Nat} {records : List Record}

/-- Where only one protocol is cached and recognises the dialog, it is asked. -/
theorem firstRecords?_of_all {positions : List Nat} (h : ∀ j ∈ positions, j = i)
    (hrecords : r.records? d i = some records) :
    r.firstRecords? d positions = none ∨ r.firstRecords? d positions = some (i, records) := by
  cases positions with
  | nil => exact .inl rfl
  | cons j positions =>
    obtain rfl := h j List.mem_cons_self
    right
    simp [firstRecords?, hrecords]

end Dispatcher

namespace Round

variable {ρ : Round} {pid : UInt32} {fd : Int32} {srcIp dstIp : Ipv4} {srcPort port : UInt16}

theorem IsDns.port_dialog (h : ρ.IsDns (.udp pid fd srcIp dstIp srcPort port)) (limit : Nat) :
    (ρ.dialog limit).port = port ∧ (ρ.dialog limit).has .request = true := by
  obtain ⟨burst, hburst, hhead, -⟩ := h.exists_request limit
  refine ⟨?_, ?_⟩
  · rw [Dialog.port, hburst]
    exact (DialogKey.of_udp (h.query _ (List.mem_of_head? hhead)).1).2.2
  · rw [Dialog.has, Dialog.get, hburst]
    rfl

/-- **The dialog of a round is dispatched to DNS**, which stands at position 2: on a port that is
bound to it, and on one that is bound to nothing and has nothing but DNS cached. Then it stays
so. -/
theorem IsDns.dispatch (h : ρ.IsDns (.udp pid fd srcIp dstIp srcPort port))
    (hport : ({} : NetworkSettings).boundProtocol? port = some Protocol.dns.key ∨
      ({} : NetworkSettings).boundProtocol? port = none ∧ ρ.SpellsNoMethod)
    {l : Learned} (hl : ∀ i ∈ l.cachedAt port, i = 2) :
    let r := Dispatcher.ofSettings {}
    Exchange.AreReported ρ.exchanges (r.dispatch l (ρ.dialog 80)).2 ∧
      ∀ i ∈ (r.dispatch l (ρ.dialog 80)).1.cachedAt port, i = 2 := by
  intro r
  obtain ⟨⟨http, hhttp, hhttp'⟩, ⟨mysql, hmysql, hmysql'⟩, ⟨dns, hdns, hdns'⟩, ⟨rest, hscan⟩,
    hindex, hgeneric⟩ := Dispatcher.ofSettings_default
  obtain ⟨records, hrecords, hreported⟩ := h.areReported hdns hdns'
  obtain ⟨hdport, hreq⟩ := h.port_dialog 80
  rcases hport with hbound | ⟨hunbound, hmethod⟩
  · have hbound' : r.settings.boundProtocol? (ρ.dialog 80).port = some Protocol.dns.key := by
      rwa [hdport]
    rw [Dispatcher.dispatch_of_bound hbound', Dispatcher.boundRecords, if_pos hreq, hindex,
      Option.bind_some, hrecords]
    exact ⟨hreported, hl⟩
  · have hunbound' : r.settings.boundProtocol? (ρ.dialog 80).port = none := by rwa [hdport]
    rw [Dispatcher.dispatch, hunbound', hdport]
    simp only [hreq, Bool.not_true, Bool.false_eq_true, if_false]
    rcases Dispatcher.firstRecords?_of_all hl hrecords with hcache | hcache
    · -- a scan: HTTP and MySQL are asked first
      have hdeclined := h.records?_http hhttp hhttp' (show 9 ≤ 80 by decide) hmethod
      have hdeclined' := h.records?_mysql hmysql hmysql' (show 9 ≤ 80 by decide)
      have hfound : r.firstRecords? (ρ.dialog 80) r.registry.scanOrder = some (2, records) := by
        rw [hscan]
        simp [Dispatcher.firstRecords?, hdeclined, hdeclined', hrecords, r]
      rw [hcache, hfound]
      refine ⟨hreported, fun i hi ↦ ?_⟩
      -- the only position that this can have put into the cache is that of DNS
      rw [Learned.cachedAt_scanned] at hi
      split at hi
      · rcases List.mem_append.1 hi with hi | hi
        · exact hl i hi
        · exact List.mem_singleton.1 hi
      · exact hl i hi
    · -- a hit in the cache, which drops nothing, because DNS is not generic
      rw [hcache]
      refine ⟨hreported, fun i hi ↦ hl i ?_⟩
      rwa [Learned.cachedAt_cachedHit, Learned.drops, hgeneric, Bool.false_and,
        if_neg (by simp)] at hi

end Round

/-! ### Conversations -/

/-- A DNS message on one UDP socket, for conversations that are written out. -/
def Event.datagram (name : String) (timestamp : UInt64) (port : UInt16) (data : List UInt8) :
    Event where
  name := name
  category := .net
  timestamp := timestamp
  result := 19
  data := data
  context := some ⟨some { pid := 7, tid := 7 }, some
    { num := 5, transport := .udp, srcIp := some .unspecified, srcPort := 40000, dstPort := port }⟩

/-- A query for a domain of one letter. -/
def Event.ask (port : UInt16) (id : UInt8) (timestamp : UInt64) : Event :=
  .datagram "sendto" timestamp port [0, id, 1, 0, 0, 1, 0, 0, 0, 0, 0, 0, 1, 97, 0, 0, 1, 0, 1]

/-- An answer to it, with its outcome. -/
def Event.reply (port : UInt16) (id rcode : UInt8) (timestamp : UInt64) : Event :=
  .datagram "recvfrom" timestamp port
    [0, id, 0x81, 0x80 + rcode, 0, 1, 0, 0, 0, 0, 0, 0, 1, 97, 0, 0, 1, 0, 1]

namespace NetworkWatcher

variable {natTable : NatTable} {rounds : List Round} {pid : UInt32} {fd : Int32}
  {srcIp dstIp : Ipv4} {srcPort port : UInt16}

/-- **Dialogs of rounds are reported one after the other**, as long as nothing but DNS is cached for
the port, which they keep up. -/
theorem dispatchAll_rounds
    (hrounds : ∀ ρ ∈ rounds, ρ.IsDns (.udp pid fd srcIp dstIp srcPort port))
    (hport : ({} : NetworkSettings).boundProtocol? port = some Protocol.dns.key ∨
      ({} : NetworkSettings).boundProtocol? port = none ∧ ∀ ρ ∈ rounds, ρ.SpellsNoMethod)
    {l : Learned} (hl : ∀ i ∈ l.cachedAt port, i = 2) :
    Exchange.AreReported (rounds.flatMap (·.exchanges))
      ((ofSettings {} natTable).dispatchAll l (rounds.map (·.dialog 80))).2 := by
  induction rounds generalizing l with
  | nil => exact ⟨[], .nil, .nil⟩
  | cons ρ rounds ih =>
    obtain ⟨hreported, hlearned⟩ := (hrounds ρ List.mem_cons_self).dispatch
      (hport.imp_right fun h ↦ ⟨h.1, h.2 ρ List.mem_cons_self⟩) hl
    have hrest := ih (fun ρ' hρ' ↦ hrounds ρ' (List.mem_cons_of_mem _ hρ'))
      (hport.imp_right fun h ↦ ⟨h.1, fun ρ' hρ' ↦ h.2 ρ' (List.mem_cons_of_mem _ hρ')⟩) hlearned
    rw [List.flatMap_cons]
    exact hreported.append hrest

/-- **DNS queries in flight are reported with their answers.** In the default deployment, let events
under one key be a conversation in rounds: queries with distinct transactions, no more than a burst
keeps and none later than the first of them allows, then answers to these queries, each query
answered at most once and every round but the last answered at all. Let the port be bound to DNS,
or to nothing, where an unanswered round must not begin with bytes that spell an HTTP method. When
what is left is finished, every query has one record and there are no others; the record carries
the outcome of the answer, and tells of a missing response exactly where there is none. -/
theorem inflight_reported (natTable : NatTable) (rounds : List Round) (pid : UInt32) (fd : Int32)
    (srcIp dstIp : Ipv4) (srcPort port : UInt16) (now : Nat)
    (hrounds : ∀ ρ ∈ rounds, ρ.IsDns (.udp pid fd srcIp dstIp srcPort port))
    (hanswered : ∀ ρ ∈ rounds.dropLast, ρ.answers ≠ [])
    (hport : ({} : NetworkSettings).boundProtocol? port = some Protocol.dns.key ∨
      ({} : NetworkSettings).boundProtocol? port = none ∧ ∀ ρ ∈ rounds, ρ.SpellsNoMethod)
    (hdone : ((ofSettings {} natTable).storeAfter
      (rounds.flatMap (·.calls) ++ [.reap now])).entries.find?
        (.udp pid fd srcIp dstIp srcPort port) = none) :
    Exchange.AreReported (rounds.flatMap (·.exchanges))
      ((ofSettings {} natTable).run (rounds.flatMap (·.calls) ++ [.reap now])).2 := by
  have hudp : (ofSettings {} natTable).admitUdp = true := by
    show (Registry.ofSettings {}).hasProtocol Protocol.dns.key = true
    decide +kernel
  have hfits : ∀ ρ ∈ rounds, ρ.Fits (ofSettings {} natTable).settings
      (ofSettings {} natTable).admitUdp (.udp pid fd srcIp dstIp srcPort port) := fun ρ hρ ↦ by
    rw [hudp]
    exact (hrounds ρ hρ).fits
  -- by default no tuple is looked up, so the dialogs are dispatched as they are handed over
  rw [run_eq, ← dispatchAll_eq, handed_rounds _ hfits hanswered hdone]
  exact dispatchAll_rounds hrounds hport fun i hi ↦ absurd hi List.not_mem_nil

/-- On a port that is bound to nothing: two queries, of which the second is answered first and the
first with an error, and another one that is not answered. -/
theorem inflight_reported_unbound :
    let first : Round := ⟨[.ask 5353 1 1000, .ask 5353 2 2000], [.reply 5353 2 0 3000,
      .reply 5353 1 3 4000]⟩
    let second : Round := ⟨[.ask 5353 3 5000], []⟩
    let k : DialogKey := .udp 7 5 .unspecified .unspecified 40000 5353
    let calls := [first, second].flatMap (·.calls) ++ [.reap 1000000000000]
    let w := ofSettings {} .none
    (first.IsDns k ∧ second.IsDns k ∧ w.settings.boundProtocol? 5353 = none ∧
      second.SpellsNoMethod ∧ (w.storeAfter calls).entries.find? k = none) ∧
    Exchange.AreReported
      [⟨.ask 5353 1 1000, some (.reply 5353 1 3 4000)⟩,
        ⟨.ask 5353 2 2000, some (.reply 5353 2 0 3000)⟩, ⟨.ask 5353 3 5000, none⟩]
      (w.run calls).2 := by
  intro first second k calls w
  have hfirst : first.IsDns k :=
    { asked := by decide
      few := by decide
      query := by decide +kernel
      distinct := by decide +kernel
      timely := fun q hq ↦ by
        obtain rfl := Option.some.inj hq
        decide +kernel
      answer := fun a ha ↦ by
        rcases List.mem_pair.1 ha with rfl | rfl
        · exact ⟨by decide +kernel, by decide +kernel, 2, 0, by decide +kernel, by decide +kernel⟩
        · exact ⟨by decide +kernel, by decide +kernel, 1, 3, by decide +kernel, by decide +kernel⟩
      once := by decide +kernel }
  have hsecond : second.IsDns k :=
    { asked := by decide
      few := by decide
      query := by decide +kernel
      distinct := by decide +kernel
      timely := fun q hq ↦ by
        obtain rfl := Option.some.inj hq
        decide +kernel
      answer := fun a ha ↦ absurd ha List.not_mem_nil
      once := by decide +kernel }
  have hunbound : w.settings.boundProtocol? 5353 = none := by decide +kernel
  have hmethod : second.SpellsNoMethod := fun _ q hq ↦ by
    obtain rfl := Option.some.inj hq
    decide +kernel
  have hmethods : ∀ ρ ∈ [first, second], ρ.SpellsNoMethod := fun ρ hρ hnone ↦ by
    rcases List.mem_pair.1 hρ with rfl | rfl
    · cases hnone
    · exact hmethod hnone
  have hdone : (w.storeAfter calls).entries.find? k = none := by decide +kernel
  have hexchanges : [first, second].flatMap (·.exchanges) =
      [⟨.ask 5353 1 1000, some (.reply 5353 1 3 4000)⟩,
        ⟨.ask 5353 2 2000, some (.reply 5353 2 0 3000)⟩, ⟨.ask 5353 3 5000, none⟩] := by
    decide +kernel
  refine ⟨⟨hfirst, hsecond, hunbound, hmethod, hdone⟩, ?_⟩
  rw [← hexchanges]
  exact inflight_reported .none [first, second] 7 5 .unspecified .unspecified 40000 5353
    1000000000000 (fun ρ hρ ↦ by rcases List.mem_pair.1 hρ with rfl | rfl <;> assumption)
    (by decide) (.inr ⟨hunbound, hmethods⟩) hdone

/-- The records of events that are finished long after the last of them. -/
def conversation (events : List Event) : List Record :=
  ((ofSettings {} .none).run (events.map .consume ++ [.reap 1000000000000])).2

/-- Outside of rounds queries in flight are not all reported with their answers. An answer that
comes after a query of the next round is lost, and its query is reported as unanswered. The eleventh
query of a round is not kept. A query that is answered twice is reported twice. A port of another
protocol is never read as DNS. And on a port that is bound to nothing a transaction and flags that
spell a method make HTTP of an unanswered round, whatever else is in it. All of these are queries
and answers that DNS reads, and the queries have distinct transactions. -/
theorem inflight_unreported :
    let ids : List UInt8 := [1, 2, 3, 4, 5, 6, 7, 8, 9, 10, 11]
    let get : Event := .datagram "sendto" 1000 5353
      [71, 69, 84, 32, 0, 1, 0, 0, 0, 0, 0, 0, 1, 97, 0, 0, 1, 0, 1]
    (Dns.queryId? get.data = some 18245 ∧ ∀ id ∈ ids,
      Dns.queryId? (Event.ask 53 id 1000).data = some id.toNat ∧
      Dns.outcome? (Event.reply 53 id 0 3000).data = some (id.toNat, 0)) ∧
    ¬ Exchange.AreReported
      [⟨.ask 53 1 1000, some (.reply 53 1 0 3000)⟩, ⟨.ask 53 2 2000, some (.reply 53 2 0 5000)⟩,
        ⟨.ask 53 3 4000, none⟩]
      (conversation [.ask 53 1 1000, .ask 53 2 2000, .reply 53 1 0 3000, .ask 53 3 4000,
        .reply 53 2 0 5000]) ∧
    ¬ Exchange.AreReported (ids.map fun id ↦ ⟨.ask 53 id 1000, none⟩)
      (conversation (ids.map fun id ↦ .ask 53 id 1000)) ∧
    ¬ Exchange.AreReported [⟨.ask 53 1 1000, some (.reply 53 1 0 2000)⟩]
      (conversation [.ask 53 1 1000, .reply 53 1 0 2000, .reply 53 1 0 3000]) ∧
    ¬ Exchange.AreReported [⟨.ask 3306 1 1000, none⟩] (conversation [.ask 3306 1 1000]) ∧
    ¬ Exchange.AreReported [⟨get, none⟩, ⟨.ask 5353 2 2000, none⟩]
      (conversation [get, .ask 5353 2 2000]) := by
  intro ids get
  refine ⟨by decide +kernel, fun h ↦ ?_, fun h ↦ ?_, fun h ↦ ?_, fun h ↦ ?_, fun h ↦ ?_⟩
  · have hlost : ∀ y ∈ conversation [.ask 53 1 1000, .ask 53 2 2000, .reply 53 1 0 3000,
        .ask 53 3 4000, .reply 53 2 0 5000], y.labels.find? Label.dnsId = some (.int 2) →
          y.labels.find? Label.dnsRcode = none := by
      decide +kernel
    have htransaction : Dns.queryId? (Event.ask 53 2 2000).data = some 2 := by decide +kernel
    obtain ⟨y, hy, hreported⟩ :=
      h.exists_mem (List.mem_cons_of_mem _ List.mem_cons_self)
    obtain ⟨id, hid, hlabel⟩ := hreported.query
    obtain ⟨-, rcode, -, hrcode, -⟩ := hreported.answered _ rfl
    obtain rfl : 2 = id := Option.some.inj (htransaction.symm.trans hid)
    rw [hlost y hy hlabel] at hrcode
    cases hrcode
  · exact absurd h.length_eq (by decide +kernel)
  · exact absurd h.length_eq (by decide +kernel)
  · have hunnamed : ∀ y ∈ conversation [.ask 3306 1 1000], ¬ y.Names Protocol.dns.key := by
      decide +kernel
    obtain ⟨y, hy, hreported⟩ := h.exists_mem List.mem_cons_self
    exact hunnamed y hy hreported.protocol
  · exact absurd h.length_eq (by decide +kernel)

end NetworkWatcher

end SocketWatch
