import Mathlib.Data.List.Basic
import SocketWatch.Proofs.Dispatch.Finding
/-!
# Requests with their responses

A protocol whose dialogs hold several requests pairs each response with the request it answers, by
position. Here the pairing is seen from the other side: somebody knows which response belongs to
which request (`Exchange`), the reader can read all of them, and its pairing finds what is known
(`Reads`). Then the dialog gives the records of all exchanges and no others, each once
(`multiplexedRecords?_perm`). They come in another order, first what was answered, in the order of
the responses, so the two lists are compared up to a permutation.
-/

namespace SocketWatch

open Wire (Message Protocol)

/-- A request event and the event that answers it, if there is one. -/
structure Exchange where
  /-- The request. -/
  query : Event
  /-- The response. -/
  answer : Option Event
deriving DecidableEq, Inhabited

/-- A protocol reads all requests and responses of some exchanges, as `ask` and `reply` say, and
pairs each response with the request of its exchange. -/
structure Wire.Protocol.Reads (p : Protocol) (transport : Transport) (exchanges : List Exchange)
    (ask reply : Event → Message) : Prop where
  /-- The requests are read. -/
  request : ∀ x ∈ exchanges, p.request? { data := x.query.data, transport } = some (ask x.query)
  /-- The responses are read. -/
  response : ∀ x ∈ exchanges, ∀ a, x.answer = some a →
    p.response? { data := a.data, transport } = some (reply a)
  /-- A response is paired with its request. -/
  matching : ∀ (i : Nat) (x : Exchange) (a : Event), exchanges[i]? = some x → x.answer = some a →
    p.matching? (exchanges.map fun x ↦ ask x.query) (reply a) = some i

/-- What is found in an exchange: the response has the last word. -/
def Exchange.found (ask reply : Event → Message) (x : Exchange) : Attributes :=
  match x.answer with
  | none => (ask x.query).attributes
  | some a => (ask x.query).attributes.overlay (reply a).attributes

namespace Dispatcher

variable {r : Dispatcher} {e : Registration} {d : Dialog} {exchanges : List Exchange}
  {ask reply : Event → Message} {transport : Transport}

/-- The records of an exchange of a dialog. -/
def exchangeRecords (r : Dispatcher) (e : Registration) (d : Dialog) (limit : Nat)
    (ask reply : Event → Message) (x : Exchange) : List Record :=
  r.unitRecords e d limit x.query x.answer (x.found ask reply)

/-! ### Positions -/

/-- A response finds its request. -/
theorem answer?_of_reads (h : e.protocol.Reads transport exchanges ask reply) {i : Nat}
    {x : Exchange} {a : Event} (hx : exchanges[i]? = some x) (ha : x.answer = some a) :
    answer? e.protocol transport (exchanges.map fun x ↦ ask x.query) a =
      some (i, a, x.found ask reply) := by
  have hget : (exchanges.map fun x ↦ ask x.query)[i]? = some (ask x.query) := by
    rw [List.getElem?_map, hx]
    rfl
  rw [answer?, h.response x (List.mem_of_getElem? hx) a ha, Exchange.found, ha]
  show (e.protocol.matching? _ (reply a)).bind _ = _
  rw [h.matching i x a hx ha]
  show ((exchanges.map fun x ↦ ask x.query)[i]?).bind _ = _
  rw [hget]
  rfl

/-- Every response belongs to an exchange. -/
theorem exists_exchange {answers : List Event}
    (hanswers : answers.Perm (exchanges.filterMap (·.answer))) {a : Event} (ha : a ∈ answers) :
    ∃ (i : Nat) (x : Exchange), exchanges[i]? = some x ∧ x.answer = some a := by
  obtain ⟨x, hx, hxa⟩ := List.mem_filterMap.1 (hanswers.mem_iff.1 ha)
  obtain ⟨i, hi⟩ := List.getElem?_of_mem hx
  exact ⟨i, x, hi, hxa⟩

/-- Where a response goes: the position of its request, the response, and what is found. -/
def place (p : Protocol) (transport : Transport) (messages : List Message) (a : Event) :
    Nat × Event × Attributes :=
  (answer? p transport messages a).getD default

theorem place_of_reads (h : e.protocol.Reads transport exchanges ask reply) {i : Nat}
    {x : Exchange} {a : Event} (hx : exchanges[i]? = some x) (ha : x.answer = some a) :
    place e.protocol transport (exchanges.map fun x ↦ ask x.query) a =
      (i, a, x.found ask reply) := by
  rw [place, answer?_of_reads h hx ha]
  rfl

/-- A position is one to which a response goes exactly where its exchange was answered. -/
theorem contains_place_iff {answers : List Event}
    (hanswers : answers.Perm (exchanges.filterMap (·.answer)))
    (hreads : e.protocol.Reads transport exchanges ask reply) {i : Nat} {x : Exchange}
    (hx : exchanges[i]? = some x) :
    ((answers.map (place e.protocol transport (exchanges.map fun x ↦ ask x.query))).map
      (·.1)).contains i = x.answer.isSome := by
  rw [Bool.eq_iff_iff, List.contains_iff_mem, Option.isSome_iff_exists, List.map_map]
  constructor
  · intro hi
    obtain ⟨a, ha, hplace⟩ := List.mem_map.1 hi
    obtain ⟨j, y, hy, hya⟩ := exists_exchange hanswers ha
    rw [Function.comp_apply, place_of_reads hreads hy hya] at hplace
    obtain rfl : y = x := Option.some.inj (hy.symm.trans ((show j = i from hplace) ▸ hx))
    exact ⟨a, hya⟩
  · rintro ⟨a, ha⟩
    refine List.mem_map.2 ⟨a, ?_, ?_⟩
    · exact hanswers.mem_iff.2 (List.mem_filterMap.2 ⟨x, List.mem_of_getElem? hx, ha⟩)
    · rw [Function.comp_apply, place_of_reads hreads hx ha]

/-- The records of a response at its place. -/
def placedRecords (r : Dispatcher) (e : Registration) (d : Dialog) (burst : Burst)
    (u : Nat × Event × Attributes) : List Record :=
  burst.events[u.1]?.elim [] fun q ↦ r.unitRecords e d burst.limit q (some u.2.1) u.2.2

/-! ### Lists by position and by property -/

/-- The records of the exchanges that were answered, collected by their answers. -/
theorem flatMap_filterMap_answer {β : Type} {f : Event → List β} {g : Exchange → List β}
    {l : List Exchange} (h : ∀ x ∈ l, ∀ a, x.answer = some a → f a = g x) :
    (l.filterMap (·.answer)).flatMap f = (l.filter (·.answer.isSome)).flatMap g := by
  induction l with
  | nil => rfl
  | cons x l ih =>
    have hrest := ih fun x hx ↦ h x (List.mem_cons_of_mem _ hx)
    cases ha : x.answer with
    | none => rw [List.filterMap_cons_none ha, List.filter_cons_of_neg (by simp [ha]), hrest]
    | some a =>
      rw [List.filterMap_cons_some ha, List.filter_cons_of_pos (by simp [ha]), List.flatMap_cons,
        List.flatMap_cons, hrest, h x List.mem_cons_self a ha]

/-- What stands at the positions that pass a test is what passes it itself, where the test of a
position depends on nothing but what stands there. -/
theorem flatMap_filter_zipIdx {α β γ : Type} {l : List α} (f : α → β) {p : Nat → Bool}
    {q : α → Bool} (h : ∀ (i : Nat) (x : α), l[i]? = some x → p i = q x) (g : β → List γ) :
    ((l.map f).zipIdx.filter fun u ↦ p u.2).flatMap (fun u ↦ g u.1) =
      (l.filter q).flatMap fun x ↦ g (f x) := by
  have hfilter : l.zipIdx.filter (fun u ↦ p u.2) = l.zipIdx.filter (q ∘ Prod.fst) :=
    List.filter_congr fun u hu ↦ h u.2 u.1 (List.mem_zipIdx_iff_getElem?.1 hu)
  have hfst : (l.zipIdx.filter (q ∘ Prod.fst)).map Prod.fst = l.filter q :=
    map_fst_filter_zipIdx q l 0
  rw [List.zipIdx_map, List.filter_map, List.flatMap_map, ← hfst, List.flatMap_map, ← hfilter]
  rfl

/-! ### Reading all exchanges -/

section

variable {burst : Burst} (hburst : d.request = some burst)
  (hevents : burst.events = exchanges.map (·.query))
  (hanswers : (d.response.elim [] (·.events)).Perm (exchanges.filterMap (·.answer)))
  (hreads : e.protocol.Reads burst.first.transport exchanges ask reply)

include hevents hreads

theorem mapM_request_of_reads :
    burst.events.mapM (fun q ↦ e.protocol.request?
      { data := q.data, transport := burst.first.transport }) =
        some (exchanges.map fun x ↦ ask x.query) := by
  have hread : ∀ q ∈ exchanges.map (·.query), e.protocol.request?
      { data := q.data, transport := burst.first.transport } = some (ask q) := fun q hq ↦ by
    obtain ⟨x, hx, rfl⟩ := List.mem_map.1 hq
    exact hreads.request x hx
  rw [hevents, mapM_eq_some_map hread, List.map_map]
  rfl

theorem placedRecords_of_reads {x : Exchange} (hx : x ∈ exchanges) {a : Event}
    (ha : x.answer = some a) :
    r.placedRecords e d burst (place e.protocol burst.first.transport
      (exchanges.map fun x ↦ ask x.query) a) = r.exchangeRecords e d burst.limit ask reply x := by
  obtain ⟨i, hi⟩ := List.getElem?_of_mem hx
  have hquery : burst.events[i]? = some x.query := by
    rw [hevents, List.getElem?_map, hi]
    rfl
  rw [place_of_reads hreads hi ha, placedRecords, hquery, exchangeRecords, ha]
  rfl

include hburst hanswers

/-- What a dialog gives, with every response at its place. -/
theorem multiplexedRecords?_of_reads :
    let messages := exchanges.map fun x ↦ ask x.query
    let places := (d.response.elim [] (·.events)).map
      (place e.protocol burst.first.transport messages)
    r.multiplexedRecords? e d = some (places.flatMap (r.placedRecords e d burst) ++
      ((burst.events.zip messages).zipIdx.filter fun u ↦ !(places.map (·.1)).contains u.2).flatMap
        fun u ↦ r.unitRecords e d burst.limit u.1.1 none u.1.2.attributes) := by
  intro messages places
  have hmessages := mapM_request_of_reads hevents hreads
  have hplaces : (d.response.elim [] (·.events)).mapM
      (answer? e.protocol burst.first.transport messages) = some places :=
    mapM_eq_some_map fun a ha ↦ by
      obtain ⟨i, x, hx, hxa⟩ := exists_exchange hanswers ha
      rw [place_of_reads hreads hx hxa]
      exact answer?_of_reads hreads hx hxa
  have hunits : (places.mapM fun u ↦ do
      some (r.unitRecords e d burst.limit (← burst.events[u.1]?) (some u.2.1) u.2.2)) =
        some (places.map (r.placedRecords e d burst)) :=
    mapM_eq_some_map fun u hu ↦ by
      obtain ⟨a, ha, rfl⟩ := List.mem_map.1 hu
      obtain ⟨i, x, hx, hxa⟩ := exists_exchange hanswers ha
      have hquery : burst.events[i]? = some x.query := by
        rw [hevents, List.getElem?_map, hx]
        rfl
      rw [place_of_reads hreads hx hxa]
      simp only [placedRecords, hquery]
      rfl
  rw [List.flatMap_def]
  exact Option.bind_eq_some_iff.2 ⟨burst, hburst, Option.bind_eq_some_iff.2 ⟨messages, hmessages,
    Option.bind_eq_some_iff.2 ⟨places, hplaces, Option.bind_eq_some_iff.2 ⟨_, hunits, rfl⟩⟩⟩⟩

/-- **Every exchange is reported once, and nothing else is.** -/
theorem multiplexedRecords?_perm :
    ∃ records, r.multiplexedRecords? e d = some records ∧
      records.Perm (exchanges.flatMap (r.exchangeRecords e d burst.limit ask reply)) := by
  refine ⟨_, multiplexedRecords?_of_reads hburst hevents hanswers hreads, ?_⟩
  have hanswered : (((d.response.elim [] (·.events)).map (place e.protocol burst.first.transport
      (exchanges.map fun x ↦ ask x.query))).flatMap (r.placedRecords e d burst)).Perm
        ((exchanges.filter (·.answer.isSome)).flatMap
          (r.exchangeRecords e d burst.limit ask reply)) := by
    rw [List.flatMap_map, ← flatMap_filterMap_answer fun x hx a ha ↦
      placedRecords_of_reads hevents hreads hx ha]
    exact hanswers.flatMap_right _
  have hzip : burst.events.zip (exchanges.map fun x ↦ ask x.query) =
      exchanges.map fun x ↦ (x.query, ask x.query) := by
    rw [hevents, List.zip_map']
  have hrest := flatMap_filter_zipIdx (fun x : Exchange ↦ (x.query, ask x.query))
    (q := fun x ↦ !x.answer.isSome)
    (fun i x hx ↦ congrArg not (contains_place_iff hanswers hreads hx))
    fun v ↦ r.unitRecords e d burst.limit v.1 none v.2.attributes
  have hunanswered : ∀ x ∈ exchanges.filter (!·.answer.isSome),
      r.unitRecords e d burst.limit x.query none (ask x.query).attributes =
        r.exchangeRecords e d burst.limit ask reply x := fun x hx ↦ by
    have hnone : x.answer = none := by simpa using (List.mem_filter.1 hx).2
    simp only [exchangeRecords, Exchange.found, hnone]
  rw [hzip, hrest, List.flatMap_congr hunanswered]
  refine (hanswered.append_right _).trans ?_
  rw [← List.flatMap_append]
  exact (List.filter_append_perm _ exchanges).flatMap_right _

end

end Dispatcher

end SocketWatch
