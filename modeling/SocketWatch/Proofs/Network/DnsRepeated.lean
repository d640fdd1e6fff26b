import SocketWatch.Proofs.Dispatch.Attribution
import SocketWatch.Proofs.Network.DnsPairing
/-!
# Queries that are sent again

A query that is not answered soon is sent again, with the transaction it had. If both are answered
in the end, a dialog holds two queries and two answers of one transaction, and the two answers go to
the same query, the first one: the look-up does not ask whether a query was answered already. So the
query that was repeated is reported twice and its repetition as one without an answer
(`repeated_left_open`), though nothing was left without one.

Which queries are left open depends on numbers alone. Of the queries of a transaction the first is
answered if there is any answer to it, and no other one is, however many answers there are
(`Wire.Dns.unanswered_filter`). Hence where there are answers enough, none is left open exactly if
no query was repeated (`Dispatcher.left_open_of_dns`).
-/

namespace SocketWatch

open Wire

/-- What passes a test, and does not stand where the first does that passes it, is the rest of what
passes it. -/
theorem filter_zipIdx_ne_findIdx? {α : Type} {p : α → Bool} {l : List α} {k : Nat}
    (hk : l.findIdx? p = some k) (start : Nat) :
    ((l.zipIdx start).filter fun u ↦ p u.1 && decide (u.2 ≠ start + k)).map (·.1) =
      (l.filter p).tail := by
  induction l generalizing start k with
  | nil => cases hk
  | cons x l ih =>
    rw [List.findIdx?_cons] at hk
    rw [List.zipIdx_cons]
    by_cases hx : p x = true
    · -- the first one is here, and all positions after it are others
      rw [if_pos hx] at hk
      obtain rfl : 0 = k := Option.some.inj hk
      have hlater : ∀ u ∈ l.zipIdx (start + 1),
          (p u.1 && decide (u.2 ≠ start + 0)) = p u.1 := fun u hu ↦ by
        have hle := List.le_snd_of_mem_zipIdx hu
        have hne : u.2 ≠ start + 0 := by omega
        rw [decide_eq_true hne, Bool.and_true]
      rw [List.filter_cons_of_neg (by simp), List.filter_congr hlater,
        List.filter_cons_of_pos hx, List.tail_cons, map_fst_filter_zipIdx]
    · rw [if_neg hx] at hk
      obtain ⟨j, hj, rfl⟩ := Option.map_eq_some_iff.1 hk
      have hshift : start + (j + 1) = start + 1 + j := by omega
      rw [List.filter_cons_of_neg (by simp [hx]), List.filter_cons_of_neg hx, hshift]
      exact ih hj (start + 1)

/-- What passes a test, without the first that does. -/
theorem filter_zipIdx_not_findIdx? {α : Type} (p : α → Bool) (l : List α) :
    (l.zipIdx.filter fun u ↦ p u.1 && !decide (l.findIdx? p = some u.2)).map (·.1) =
      (l.filter p).tail := by
  cases hfirst : l.findIdx? p with
  | none =>
    have hnone : ∀ x ∈ l, ¬ p x = true := fun x hx ↦
      Bool.not_eq_true _ ▸ List.findIdx?_eq_none_iff.1 hfirst x hx
    have hnone' : ∀ u ∈ l.zipIdx, ¬ (p u.1 && !decide (none = some u.2)) = true := fun u hu h ↦
      hnone u.1 (List.fst_mem_of_mem_zipIdx hu) (Bool.and_eq_true_iff.1 h).1
    rw [List.filter_eq_nil_iff.2 hnone, List.filter_eq_nil_iff.2 hnone']
    rfl
  | some k =>
    rw [← filter_zipIdx_ne_findIdx? hfirst 0]
    refine congrArg (List.map _) (List.filter_congr fun u _ ↦ ?_)
    have helse : ¬ some k = some u.2 ↔ u.2 ≠ 0 + k := by
      rw [Nat.zero_add, Option.some.injEq, eq_comm]
    rw [← decide_not, decide_eq_decide.2 helse]

namespace Wire.Dns

/-- Whether a message is of a transaction. -/
def isOf (transport : Transport) (id : Nat) (e : Event) : Bool :=
  transaction? transport e.data = some id

variable {transport : Transport} {id i : Nat} {queries answers : List Event} {q a : Event}

theorem isOf_iff : isOf transport id a = true ↔ transaction? transport a.data = some id :=
  decide_eq_true_iff

/-- All answers of a transaction go to its first query. -/
theorem askedAt?_of_isOf (ha : isOf transport id a = true) :
    askedAt? transport queries a = queries.findIdx? (isOf transport id) := by
  rw [askedAt?, isOf_iff.1 ha]
  rfl

/-- **An answer goes to a query of a transaction exactly if there is one of that transaction and the
query is the first.** -/
theorem contains_askedAt? (hq : queries[i]? = some q) (hid : isOf transport id q = true) :
    (answers.map (askedAt? transport queries)).contains (some i) =
      (answers.any (isOf transport id) &&
        decide (queries.findIdx? (isOf transport id) = some i)) := by
  rw [Bool.eq_iff_iff, Bool.and_eq_true, List.any_eq_true, decide_eq_true_iff,
    List.contains_iff_mem, List.mem_map]
  constructor
  · rintro ⟨a, ha, hasked⟩
    obtain ⟨hlt, hsame, -⟩ := List.findIdx?_eq_some_iff_getElem.1 hasked
    obtain ⟨_, rfl⟩ := List.getElem?_eq_some_iff.1 hq
    have haid : isOf transport id a = true :=
      isOf_iff.2 ((of_decide_eq_true hsame).symm.trans (isOf_iff.1 hid))
    exact ⟨⟨a, ha, haid⟩, (askedAt?_of_isOf haid).symm.trans hasked⟩
  · rintro ⟨⟨a, ha, haid⟩, hfirst⟩
    exact ⟨a, ha, (askedAt?_of_isOf haid).trans hfirst⟩

/-- **Of the queries of a transaction all are left open, or all but the first**, if there is an
answer to it. How many answers there are does not matter. -/
theorem unanswered_filter (transport : Transport) (id : Nat) (queries answers : List Event) :
    (unanswered transport queries answers).filter (isOf transport id) =
      (queries.filter (isOf transport id)).drop (min 1 (answers.countP (isOf transport id))) := by
  have hopen : ∀ u ∈ queries.zipIdx,
      (isOf transport id u.1 &&
        !(answers.map (askedAt? transport queries)).contains (some u.2)) =
      (isOf transport id u.1 && !(answers.any (isOf transport id) &&
        decide (queries.findIdx? (isOf transport id) = some u.2))) := fun u hu ↦ by
    cases hid : isOf transport id u.1 with
    | false => rfl
    | true => rw [contains_askedAt? (List.mem_zipIdx_iff_getElem?.1 hu) hid]
  rw [unanswered, List.filter_map, List.filter_filter]
  refine (congrArg (List.map _) (List.filter_congr hopen)).trans ?_
  cases hanswer : answers.any (isOf transport id) with
  | true =>
    have hone : min 1 (answers.countP (isOf transport id)) = 1 :=
      Nat.min_eq_left (List.countP_pos_iff.2 (List.any_eq_true.1 hanswer))
    rw [hone, List.drop_one]
    exact filter_zipIdx_not_findIdx? _ _
  | false =>
    have hzero : answers.countP (isOf transport id) = 0 :=
      List.countP_eq_zero.2 fun a ha ↦ List.any_eq_false.1 hanswer a ha
    rw [hzero]
    simp only [Bool.false_and, Bool.not_false, Bool.and_true]
    exact map_fst_filter_zipIdx _ _ _

end Wire.Dns

/-! ### Records -/

/-- The record leaves a query open: it shows a transaction, and tells that there was no response. -/
def Record.LeavesOpen (id : UInt16) (x : Record) : Prop :=
  x.labels.find? Label.dnsId = some (.int (Int64.ofInt id.toNat)) ∧ x.Tells .noResponse

instance (id : UInt16) (x : Record) : Decidable (x.LeavesOpen id) :=
  inferInstanceAs (Decidable (_ ∧ _))

namespace Dispatcher

variable {r : Dispatcher} {e : Registration} {d : Dialog} {burst : Burst} {q a : Event} {x : Record}

/-- The record of an answer leaves nothing open. -/
theorem ShowsAnswer.not_leavesOpen (h : r.ShowsAnswer e d burst a x) (id : UInt16) :
    ¬ x.LeavesOpen id := by
  obtain ⟨i, q, m, m', -, -, hm, hm', hx, -, -⟩ := h
  have hfinding : Protocol.dns.Finding (.single q (some a) d.natTarget burst.limit)
      (m.attributes.overlay m'.attributes) :=
    .paired (q := .ofEvent q burst.limit) (a := .ofEvent a burst.limit) rfl rfl hm hm'
  rintro ⟨-, htells⟩
  cases (hfinding.tells_noResponse_iff hx).1 htells

/-- The record of a query without an answer leaves its own transaction open, and no other. -/
theorem ShowsQuery.leavesOpen_iff (h : r.ShowsQuery e d burst q x) (id : UInt16) :
    x.LeavesOpen id ↔ Dns.isOf burst.first.transport id.toNat q = true := by
  obtain ⟨m, hm, hx, htells⟩ := h
  obtain ⟨number, hlt, hnumber, hlabel⟩ := Dns.request?_number hm
  have hshown : x.labels.find? Label.dnsId = some (.int (Int64.ofInt number)) := by
    rw [Dialog.exchangeRecord?_found (by decide) hx, hlabel]
  have hwritten : Dns.transaction? burst.first.transport q.data = some number := hnumber
  rw [Record.LeavesOpen, and_iff_left htells, hshown, Dns.isOf_iff, hwritten, Option.some.injEq,
    Option.some.injEq, Attribute.int.injEq]
  exact ⟨Dns.id_injective hlt id.toNat_lt, fun h ↦ congrArg (fun n : Nat ↦ Int64.ofInt n) h⟩

/-- **The records that leave a transaction open** are those of its queries, or of all but the
first. -/
theorem shows_of_leavesOpen (hp : e.protocol = .dns) (hburst : d.request = some burst)
    {records : List Record} (h : r.multiplexedRecords? e d = some records) (id : UInt16) :
    List.Forall₂ (r.ShowsQuery e d burst)
      ((burst.events.filter (Dns.isOf burst.first.transport id.toNat)).drop
        (min 1 ((d.response.elim [] (·.events)).countP
          (Dns.isOf burst.first.transport id.toNat))))
      (records.filter fun x ↦ x.LeavesOpen id) := by
  obtain ⟨answered, rest, rfl, hanswered, hrest⟩ := shows_of_multiplexedRecords?_dns hp hburst h
  have hnone : answered.filter (fun x ↦ x.LeavesOpen id) = [] := by
    refine List.filter_eq_nil_iff.2 fun x hx ↦ ?_
    obtain ⟨a, -, hshows⟩ := exists_mem_of_forall₂ hanswered hx
    simpa using hshows.not_leavesOpen id
  rw [List.filter_append, hnone, List.nil_append, ← Dns.unanswered_filter]
  exact List.rel_filter
    (fun q x hshows ↦ (hshows.leavesOpen_iff id).symm.trans decide_eq_true_iff.symm) hrest

/-- **Which queries are left open.** In a dialog that DNS reads, take the queries of a transaction
and the answers of that transaction, as far as they are kept. The records that show the transaction
and tell that there was no response are those of all of the queries, in order, or of all but the
first if there is an answer. So where there are no fewer answers than queries, there is no such
record if, and only if, there is one query at most. -/
theorem left_open_of_dns (r : Dispatcher) {i : Nat} {e : Registration}
    (he : r.registry.get? i = some e) (hp : e.protocol = .dns) {d : Dialog} {burst : Burst}
    (hburst : d.request = some burst) {records : List Record}
    (hrecords : r.records? d i = some records) (id : UInt16) :
    let asked := burst.events.filter (Dns.isOf burst.first.transport id.toNat)
    let answered := (d.response.elim [] (·.events)).filter
      (Dns.isOf burst.first.transport id.toNat)
    List.Forall₂ (r.ShowsQuery e d burst) (asked.drop (min 1 answered.length))
        (records.filter fun x ↦ x.LeavesOpen id) ∧
      (asked.length ≤ answered.length →
        ((∀ x ∈ records, ¬ x.LeavesOpen id) ↔ asked.length ≤ 1)) := by
  intro asked answered
  rw [records?_eq_multiplexedRecords? hp he] at hrecords
  have hshows := shows_of_leavesOpen hp hburst hrecords id
  rw [List.countP_eq_length_filter] at hshows
  refine ⟨hshows, fun hle ↦ ?_⟩
  have hlength : asked.length - min 1 answered.length =
      (records.filter fun x ↦ x.LeavesOpen id).length := by
    rw [← List.length_drop]
    exact hshows.length_eq
  have hempty : (∀ x ∈ records, ¬ x.LeavesOpen id) ↔
      (records.filter fun x ↦ x.LeavesOpen id).length = 0 := by
    rw [List.length_eq_zero_iff, List.filter_eq_nil_iff]
    simp only [decide_eq_true_eq]
  rw [hempty, ← hlength]
  omega

/-- Two queries, the first one again, and an answer to each transaction: nothing is left open of the
second transaction, and of the first it is the repetition. -/
theorem left_open_of_dns_mixed :
    let r := Dispatcher.ofSettings {}
    let again : Event := .ask 53 1 2500
    let burst := ((Burst.ofEvent (.ask 53 1 1000) 80).merge (.ask 53 2 2000)).merge again
    let d : Dialog := { request := some burst,
                        response := Burst.ofEvents? 80 [.reply 53 2 0 3000, .reply 53 1 3 4000] }
    ∃ e records, r.registry.get? 2 = some e ∧ e.protocol = .dns ∧ r.records? d 2 = some records ∧
      (∀ x ∈ records, ¬ x.LeavesOpen 2) ∧
      List.Forall₂ (r.ShowsQuery e d burst) [again] (records.filter fun x ↦ x.LeavesOpen 1) := by
  intro r again burst d
  obtain ⟨e, he, hp⟩ : ∃ e, r.registry.get? 2 = some e ∧ e.protocol = .dns := ⟨_, rfl, rfl⟩
  have hburst : d.request = some burst := rfl
  obtain ⟨records, hrecords⟩ : ∃ records, r.records? d 2 = some records :=
    Option.isSome_iff_exists.1 (by decide +kernel)
  have hfirst := (left_open_of_dns r he hp hburst hrecords 1).1
  have hsecond := (left_open_of_dns r he hp hburst hrecords 2).2
  have hleft : (burst.events.filter (Dns.isOf burst.first.transport (1 : UInt16).toNat)).drop
      (min 1 ((d.response.elim [] (·.events)).filter
        (Dns.isOf burst.first.transport (1 : UInt16).toNat)).length) = [again] := by
    decide +kernel
  rw [hleft] at hfirst
  exact ⟨e, records, he, hp, hrecords, (hsecond (by decide +kernel)).2 (by decide +kernel), hfirst⟩

/-- A query, its repetition, and an answer to each: the two answers are both shown with the query,
and its repetition is left open. -/
theorem repeated_left_open :
    let r := Dispatcher.ofSettings {}
    let burst := (Burst.ofEvent (.ask 53 1 1000) 80).merge (.ask 53 1 2000)
    let d : Dialog := { request := some burst,
                        response := Burst.ofEvents? 80 [.reply 53 1 0 3000, .reply 53 1 0 4000] }
    burst.events.countP (Dns.isOf .udp 1) = 2 ∧
      (d.response.elim [] (·.events)).countP (Dns.isOf .udp 1) = 2 ∧
      (r.records? d 2).map (·.map fun x ↦ (x.timestamp, decide (x.LeavesOpen 1))) =
        some [(1000, false), (1000, false), (2000, true)] := by
  decide +kernel

end Dispatcher

end SocketWatch
