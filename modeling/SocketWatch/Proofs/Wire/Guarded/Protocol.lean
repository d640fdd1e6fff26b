import SocketWatch.Proofs.Wire.Guarded.Binary
import SocketWatch.Proofs.Wire.Guarded.Dns
import SocketWatch.Proofs.Wire.Guarded.Dubbo
import SocketWatch.Proofs.Wire.Guarded.Http
import SocketWatch.Proofs.Wire.Guarded.RocketMq
import SocketWatch.Wire.Protocol
/-!
# No payload makes a reader fault

The readers of all protocols, by position: whatever was captured, and whatever is known of the
request before a response is read, they are not at fault. They come to the same message or the same
refusal as the readers of what is left (`no_fault`).
-/

namespace SocketWatch.Wire.Protocol

/-- Read a request by position. -/
def guardedRequest : Protocol → Message → Guarded Message
  | .http => Http.guardedRequest
  | .dns => Dns.guardedRequest
  | .redis => Redis.guardedRequest
  | .mysql => Mysql.guardedRequest
  | .kafka => Kafka.guardedRequest
  | .dubbo => Dubbo.guardedRequest
  | .rocketmq => RocketMq.guardedRequest
  | .generic => .value

/-- Read a response by position. -/
def guardedResponse : Protocol → Message → Guarded Message
  | .http => Http.guardedResponse
  | .dns => Dns.guardedResponse
  | .redis => Redis.guardedResponse
  | .mysql => Mysql.guardedResponse
  | .kafka => Kafka.guardedResponse
  | .dubbo => Dubbo.guardedResponse
  | .rocketmq => RocketMq.guardedResponse
  | .generic => .value

variable {m : Message}

theorem guardedRequest_eq (p : Protocol) (hm : Guarded.Captured m.data) :
    p.guardedRequest m = .ofOption (p.request? m) := by
  cases p with
  | http => exact Http.guardedRequest_eq hm
  | dns => exact Dns.guardedRequest_eq hm
  | redis => exact Redis.guardedRequest_eq hm
  | mysql => exact Mysql.guardedRequest_eq hm
  | kafka => exact Kafka.guardedRequest_eq m
  | dubbo => exact Dubbo.guardedRequest_eq hm
  | rocketmq => exact RocketMq.guardedRequest_eq hm
  | generic => rfl

theorem guardedResponse_eq (p : Protocol) (hm : Guarded.Captured m.data) :
    p.guardedResponse m = .ofOption (p.response? m) := by
  cases p with
  | http => exact Http.guardedResponse_eq hm
  | dns => exact Dns.guardedResponse_eq hm
  | redis => exact Redis.guardedResponse_eq hm
  | mysql => exact Mysql.guardedResponse_eq hm
  | kafka => exact Kafka.guardedResponse_eq m
  | dubbo => exact Dubbo.guardedResponse_eq hm
  | rocketmq => exact RocketMq.guardedResponse_eq hm
  | generic => rfl

theorem lt_of_matching? (p : Protocol) {requests : List Message} {response : Message} {i : Nat}
    (h : p.matching? requests response = some i) : i < requests.length := by
  cases p with
  | dns => exact (List.findIdx?_eq_some_iff_getElem.1 h).1
  | _ => cases h

/-- **No payload makes a reader fault.** For a capture that fits into memory, of any transport and
with any attributes before it is read, a request and a response are read or refused without an index
or a slice out of range, without a sum or a difference out of the word, and without a loop that does
not end; and the request that a response answers is one of the list. -/
theorem no_fault (p : Protocol) (m : Message) (requests : List Message)
    (hm : m.data.length < Word.count 63) :
    p.guardedRequest m = .ofOption (p.request? m) ∧
      p.guardedResponse m = .ofOption (p.response? m) ∧
      (∀ cause, p.guardedRequest m ≠ .fault cause) ∧
      (∀ cause, p.guardedResponse m ≠ .fault cause) ∧
      ∀ i, p.matching? requests m = some i → i < requests.length := by
  have hrequest := p.guardedRequest_eq hm
  have hresponse := p.guardedResponse_eq hm
  refine ⟨hrequest, hresponse, fun cause ↦ ?_, fun cause ↦ ?_, fun i ↦ p.lt_of_matching?⟩
  · rw [hrequest]
    exact Guarded.ofOption_ne_fault _ cause
  · rw [hresponse]
    exact Guarded.ofOption_ne_fault _ cause

/-- A query whose name is a pointer to itself: after as many pointers as are followed, it is
refused. -/
theorem no_fault_circle :
    let m : Message :=
      { data := [0x12, 0x34, 1, 0, 0, 1, 0, 0, 0, 0, 0, 0, 0xC0, 12, 0, 1, 0, 1]
        transport := .udp }
    m.data.length < Word.count 63 ∧ dns.guardedRequest m = .refused ∧ dns.request? m = none := by
  intro m
  have hm : m.data.length < Word.count 63 := by decide
  have hrefused : dns.guardedRequest m = .refused := by decide
  refine ⟨hm, hrefused, ?_⟩
  obtain ⟨hread, -⟩ := no_fault dns m [] hm
  rw [hrefused] at hread
  cases hrequest : dns.request? m with
  | none => rfl
  | some m' =>
    rw [hrequest] at hread
    cases hread

end SocketWatch.Wire.Protocol
