import SocketWatch.Proofs.Dispatch.Choice
import SocketWatch.Proofs.Wire.Correlation
/-!
# Answers go to the right questions

Three protocols number their requests, so for their records it can be said from the bytes alone
whether the response that a record shows is the one to its request. It is, in whatever way the two
were brought together (`Reading.number`), and the record shows the number.

It is not said that a number is written in every RocketMQ frame: two frames that name none are taken
to have the number zero, and so to belong together (`attribution_without_number`).
-/

namespace SocketWatch

open Wire (Message Protocol)

/-- **What is found in an exchange shows the number of its request**, and the response, if there is
one, has the same number. -/
theorem Wire.Protocol.Reading.number {p : Protocol} {transport : Transport} {u : Dialog}
    {found : Attributes} {label : String} (h : p.Reading transport u found)
    (hp : p.numberLabel? = some label) :
    ∃ q id, u.request = some q ∧ p.Carries q.data (p.requestNumber? transport q.data) id ∧
      found.find? label = some (.int (Int64.ofInt id)) ∧
      ∀ a, u.response = some a → p.Carries a.data (p.responseNumber? transport a.data) id := by
  cases h with
  | asked hq ha hm =>
    obtain ⟨id, hid, -, hfind⟩ := Protocol.request?_number hp hm
    refine ⟨_, id, hq, hid, hfind, fun a ha' ↦ ?_⟩
    rw [ha] at ha'
    cases ha'
  | @continued hwhole q a hq ha m m' hm hm' =>
    obtain ⟨id, hid, hsmall, hfind⟩ := Protocol.request?_number hp hm
    obtain ⟨hid', hfind'⟩ := Protocol.continued_number hp hwhole hsmall hfind hm'
    refine ⟨_, id, hq, hid, hfind', fun b hb ↦ ?_⟩
    obtain rfl := Option.some.inj (ha.symm.trans hb)
    exact hid'
  | @paired _ q a hq ha m m' hm hm' messages i hi hmem =>
    obtain ⟨id, hid, hsmall, hfind⟩ := Protocol.request?_number hp hm
    obtain ⟨hid', hfind'⟩ := Protocol.paired_number hp hsmall hfind hm' hi hmem
    refine ⟨_, id, hq, hid, ?_, fun b hb ↦ ?_⟩
    · rw [Fields.find?_overlay, hfind', Option.some_or]
    · obtain rfl := Option.some.inj (ha.symm.trans hb)
      exact hid'

/-- What is found shows whether there was a response. -/
theorem Wire.Protocol.Finding.tells_noResponse_iff {p : Protocol} {u : Dialog} {found : Attributes}
    (h : p.Finding u found) {s : NetworkSettings} {protocol : String} {length : Nat} {x : Record}
    (hx : u.exchangeRecord? s protocol found length = some x) :
    x.Tells .noResponse ↔ u.response = none := by
  rcases h.silent_or_accuses with hsilent | ⟨haccuses, hfaults⟩
  · have htells := Dialog.exchangeRecord?_of_silent hsilent hx
    cases ha : u.response with
    | none =>
      rw [ha] at htells
      exact iff_of_true htells rfl
    | some a =>
      rw [ha] at htells
      exact iff_of_false (fun h ↦ ErrorKind.noConfusion (h.unique htells)) (Option.some_ne_none a)
  · have htells := Dialog.exchangeRecord?_of_accuses haccuses hx
    exact iff_of_false (fun h ↦ ErrorKind.noConfusion (h.unique htells)) hfaults.response_ne_none

namespace Dispatcher

end Dispatcher

end SocketWatch
