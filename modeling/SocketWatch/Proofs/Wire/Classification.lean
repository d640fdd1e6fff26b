import SocketWatch.Proofs.Fields
import SocketWatch.Wire.Protocol
/-!
# What the readers say about errors

The readers of all protocols write their labels into one set of attributes, each under names of its
own, and these are none of the names under which a record tells who talked to whom, for how long and
what (`Label.ofReaders`). A record is classified by three labels, and those the readers together
touch in one way only: a reader of responses may say that the protocol reports an error. Readers of
requests say nothing about them (`Protocol.keeps_of_request?`), and neither do those of the generic
protocol and of Kafka for responses. A reader of responses leaves them as they are or says both that
there is an error and which (`Protocol.classifies_of_response?`); it never says the one without the
other.

The two relations between a message before and after reading, `Keeps` and `Classifies`, are closed
under putting a label of the readers, so what remains for each protocol is to take its reader apart.
-/

namespace SocketWatch

/-- The labels by which a record is classified. -/
def Label.classifying : List String := [Label.protocol, Label.isError, Label.errorType]

/-- The labels in which the readers tell what they read. -/
def Label.ofReaders : List String :=
  [Label.contentKey, Label.httpMethod, Label.httpUrl, Label.httpStatusCode,
    Label.httpResponsePayload, Label.traceType, Label.traceId, Label.dnsId, Label.dnsDomain,
    Label.dnsIp, Label.dnsRcode, Label.redisCommand, Label.redisError, Label.sql,
    Label.sqlErrorCode, Label.sqlErrorMsg, Label.kafkaApiKey, Label.kafkaCorrelationId,
    Label.dubboErrorCode, Label.rocketmqOpaque, Label.rocketmqRequestMsg, Label.rocketmqErrorCode,
    Label.rocketmqErrorMsg]

/-- No reader classifies in its own labels. -/
theorem Label.notMem_ofReaders {name : String} (h : name ∈ Label.classifying) :
    name ∉ Label.ofReaders := by
  revert name
  decide

namespace Wire

namespace Message

variable {m m' : Message} {name : String}

/-- Reading left all labels as they were that are not of the readers. -/
def Keeps (m m' : Message) : Prop :=
  ∀ name ∉ Label.ofReaders, m'.attributes.find? name = m.attributes.find? name

theorem Keeps.refl (m : Message) : m.Keeps m := fun _ _ ↦ rfl

theorem Keeps.seek (h : m.Keeps m') (offset : Nat) : m.Keeps (m'.seek offset) := h

theorem Keeps.putInt (h : m.Keeps m') (hname : name ∈ Label.ofReaders) (value : Int) :
    m.Keeps (m'.putInt name value) := fun other hother ↦ by
  have hne : name ≠ other := fun heq ↦ hother (heq ▸ hname)
  rw [Message.putInt, Attributes.find?_putInt, if_neg hne, h other hother]

theorem Keeps.putText (h : m.Keeps m') (hname : name ∈ Label.ofReaders) (value : String) :
    m.Keeps (m'.putText name value) := fun other hother ↦ by
  have hne : name ≠ other := fun heq ↦ hother (heq ▸ hname)
  rw [Message.putText, Attributes.find?_putText, if_neg hne, h other hother]

/-- Reading left all labels as they were that are not of the readers, or it said that the protocol
reports an error, and no more than that. -/
inductive Classifies (m m' : Message) : Prop where
  /-- Nothing is said. -/
  | silent (h : m.Keeps m')
  /-- The protocol reports an error. -/
  | error (hothers : ∀ name ∉ Label.ofReaders, name ≠ Label.isError → name ≠ Label.errorType →
        m'.attributes.find? name = m.attributes.find? name)
      (hflag : m'.attributes.find? Label.isError = some (.bool true))
      (hkind : m'.attributes.find? Label.errorType =
        some (.int (Int64.ofInt ErrorKind.protocolError.code)))

/-- What marking a message says. -/
theorem protocolError_spec (m : Message) :
    let a := m.protocolError.attributes
    (∀ name, name ≠ Label.isError → name ≠ Label.errorType →
      a.find? name = m.attributes.find? name) ∧
      a.find? Label.isError = some (.bool true) ∧
      a.find? Label.errorType = some (.int (Int64.ofInt ErrorKind.protocolError.code)) := by
  refine ⟨fun name hflag hkind ↦ ?_, ?_, ?_⟩
  · rw [Message.protocolError, Message.putInt, Attributes.find?_putInt, if_neg hkind.symm,
      Message.putBool, Attributes.find?_putBool, if_neg hflag.symm]
  · rw [Message.protocolError, Message.putInt, Attributes.find?_putInt, if_neg (by decide),
      Message.putBool, Attributes.find?_putBool, if_pos rfl]
  · rw [Message.protocolError, Message.putInt, Attributes.find?_putInt, if_pos rfl]

theorem find?_isError_protocolErrorIf (m : Message) (condition : Prop) [Decidable condition] :
    (m.protocolErrorIf condition).attributes.find? Label.isError =
      if condition then some (.bool true) else m.attributes.find? Label.isError := by
  unfold Message.protocolErrorIf
  split
  · exact (protocolError_spec m).2.1
  · rfl

theorem Keeps.protocolError (h : m.Keeps m') : m.Classifies m'.protocolError := by
  obtain ⟨hothers, hflag, hkind⟩ := protocolError_spec m'
  refine .error (fun name hname hne hne' ↦ ?_) hflag hkind
  exact (hothers name hne hne').trans (h name hname)

/-- What is neither of the readers nor about errors is left as it was in any case. -/
theorem Classifies.others (h : m.Classifies m') (hname : name ∉ Label.ofReaders)
    (hflag : name ≠ Label.isError) (hkind : name ≠ Label.errorType) :
    m'.attributes.find? name = m.attributes.find? name := by
  rcases h with hkeeps | hothers
  · exact hkeeps name hname
  · exact hothers name hname hflag hkind

theorem Keeps.protocolErrorIf (h : m.Keeps m') (condition : Prop) [Decidable condition] :
    m.Classifies (m'.protocolErrorIf condition) := by
  unfold Message.protocolErrorIf
  split
  · exact h.protocolError
  · exact .silent h

end Message

/-! ### HTTP -/

namespace Http

variable {m m' : Message}

theorem keeps_addTrace (m : Message) : m.Keeps (addTrace m) := by
  unfold addTrace
  split
  · exact ((Message.Keeps.refl m).putText (by decide) _).putText (by decide) _
  · exact .refl m

theorem keeps_of_request? (h : request? m = some m') : m.Keeps m' := by
  unfold request? at h
  split at h
  · cases h
  · obtain ⟨⟨method, offset⟩, -, h⟩ := Option.bind_eq_some_iff.1 h
    cases h
    exact (((keeps_addTrace m).putText (by decide) _).putText (by decide) _).putText (by decide) _

theorem classifies_of_response? (h : response? m = some m') : m.Classifies m' := by
  unfold response? at h
  split at h
  · cases h
  · obtain ⟨code, -, h⟩ := Option.bind_eq_some_iff.1 h
    cases h
    have htrace : m.Keeps (if m.attributes.contains Label.traceType then m else addTrace m) := by
      split
      · exact .refl m
      · exact keeps_addTrace m
    exact ((htrace.putInt (by decide) _).putText (by decide) _).protocolErrorIf _

end Http

/-! ### DNS -/

namespace Dns

variable {m m' : Message}

theorem keeps_of_request? (h : request? m = some m') : m.Keeps m' := by
  unfold request? at h
  simp only at h
  split at h
  · cases h
  · obtain ⟨header, -, h⟩ := Option.bind_eq_some_iff.1 h
    split at h
    · cases h
    · obtain ⟨⟨domain, stop⟩, -, h⟩ := Option.bind_eq_some_iff.1 h
      cases h
      exact (((Message.Keeps.refl m).seek _).putInt (by decide) _).putText (by decide) _

theorem classifies_of_response? (h : response? m = some m') : m.Classifies m' := by
  unfold response? at h
  simp only at h
  split at h
  · cases h
  · obtain ⟨header, -, h⟩ := Option.bind_eq_some_iff.1 h
    split at h
    · cases h
    · obtain ⟨⟨domain, stop⟩, -, h⟩ := Option.bind_eq_some_iff.1 h
      cases h
      have hdomain : m.Keeps (m.putText Label.dnsDomain domain) :=
        (Message.Keeps.refl m).putText (by decide) _
      refine ((Message.Keeps.putInt ?_ (by decide) _).putInt (by decide) _).protocolErrorIf _
      split
      · exact hdomain
      · exact hdomain.putText (by decide) _

end Dns

/-! ### Redis -/

namespace Redis

variable {m m' : Message}

theorem keeps_of_request? (h : request? m = some m') : m.Keeps m' := by
  obtain ⟨⟨word, rest⟩, -, h⟩ := Option.bind_eq_some_iff.1 h
  cases h
  exact ((Message.Keeps.refl m).seek _).putText (by decide) _

theorem classifies_of_response? (h : response? m = some m') : m.Classifies m' := by
  unfold response? at h
  split at h
  · cases h; exact .silent (.refl m)
  · cases h; exact .silent (.refl m)
  · cases h; exact .silent (.refl m)
  · cases h; exact .silent (.refl m)
  · cases h
    exact ((Message.Keeps.refl m).putText (by decide) _).protocolError
  · cases h

end Redis

/-! ### MySQL -/

namespace Mysql

variable {m m' : Message}

theorem keeps_of_request? (h : request? m = some m') : m.Keeps m' := by
  unfold request? at h
  simp only at h
  split at h
  case h_3 => cases h
  -- both commands carry a statement in the same way
  all_goals
    split at h
    · cases h
      exact (((Message.Keeps.refl m).seek _).putText (by decide) _).putText (by decide) _
    · cases h

theorem classifies_of_response? (h : response? m = some m') : m.Classifies m' := by
  unfold response? at h
  split at h
  · cases h
  · split at h
    · cases h
      exact (((Message.Keeps.refl m).putInt (by decide) _).putText (by decide) _).protocolErrorIf _
    · cases h; exact .silent (.refl m)
    · cases h; exact .silent (.refl m)
    · split at h
      · cases h; exact .silent (.refl m)
      · cases h

end Mysql

/-! ### Kafka -/

namespace Kafka

variable {m m' : Message}

theorem keeps_of_request? (h : request? m = some m') : m.Keeps m' := by
  obtain ⟨length, -, h⟩ := Option.bind_eq_some_iff.1 h
  obtain ⟨apiKey, -, h⟩ := Option.bind_eq_some_iff.1 h
  obtain ⟨apiVersion, -, h⟩ := Option.bind_eq_some_iff.1 h
  obtain ⟨correlation, -, h⟩ := Option.bind_eq_some_iff.1 h
  obtain ⟨clientLength, -, h⟩ := Option.bind_eq_some_iff.1 h
  simp only at h
  split at h
  · cases h
  · cases h
    exact (((Message.Keeps.refl m).seek _).putInt (by decide) _).putInt (by decide) _

theorem keeps_of_response? (h : response? m = some m') : m.Keeps m' := by
  obtain ⟨length, -, h⟩ := Option.bind_eq_some_iff.1 h
  obtain ⟨correlation, -, h⟩ := Option.bind_eq_some_iff.1 h
  split at h
  · cases h
  · split at h
    · cases h
    · cases h
      exact ((Message.Keeps.refl m).seek _).putInt (by decide) _

end Kafka

/-! ### Dubbo -/

namespace Dubbo

variable {m m' : Message}

theorem keeps_of_request? (h : request? m = some m') : m.Keeps m' := by
  obtain ⟨⟨flags, status, body⟩, -, h⟩ := Option.bind_eq_some_iff.1 h
  obtain ⟨key, -, h⟩ := Option.bind_eq_some_iff.1 h
  cases h
  exact ((Message.Keeps.refl m).seek _).putText (by decide) _

theorem classifies_of_response? (h : response? m = some m') : m.Classifies m' := by
  obtain ⟨⟨flags, status, body⟩, -, h⟩ := Option.bind_eq_some_iff.1 h
  simp only at h
  split at h
  · cases h
  · cases h
    exact (((Message.Keeps.refl m).seek _).putInt (by decide) _).protocolErrorIf _

end Dubbo

/-! ### RocketMQ -/

namespace RocketMq

variable {m m' : Message}

theorem keeps_of_request? (h : request? m = some m') : m.Keeps m' := by
  obtain ⟨header, -, h⟩ := Option.bind_eq_some_iff.1 h
  cases h
  exact ((((Message.Keeps.refl m).seek _).putText (by decide) _).putInt (by decide) _).putText
    (by decide) _

theorem classifies_of_response? (h : response? m = some m') : m.Classifies m' := by
  obtain ⟨header, -, h⟩ := Option.bind_eq_some_iff.1 h
  split at h
  · cases h
  · have hcode : m.Keeps ((m.seek m.data.length).putInt Label.rocketmqErrorCode header.code) :=
      ((Message.Keeps.refl m).seek _).putInt (by decide) _
    simp only [Option.some.injEq] at h
    split at h
    · rw [← h]
      exact (hcode.putText (by decide) _).protocolError
    · rw [← h]
      exact .silent hcode

end RocketMq

/-! ### All of them -/

namespace Protocol

variable {p : Protocol} {m m' : Message}

/-- **A reader of requests says nothing about errors.** -/
theorem keeps_of_request? (h : p.request? m = some m') : m.Keeps m' := by
  cases p with
  | http => exact Http.keeps_of_request? h
  | dns => exact Dns.keeps_of_request? h
  | redis => exact Redis.keeps_of_request? h
  | mysql => exact Mysql.keeps_of_request? h
  | kafka => exact Kafka.keeps_of_request? h
  | dubbo => exact Dubbo.keeps_of_request? h
  | rocketmq => exact RocketMq.keeps_of_request? h
  | generic => exact Option.some.inj h ▸ .refl m

/-- The generic protocol and Kafka report no errors. -/
theorem keeps_of_response? (hp : p = .generic ∨ p = .kafka) (h : p.response? m = some m') :
    m.Keeps m' := by
  rcases hp with rfl | rfl
  · exact Option.some.inj h ▸ .refl m
  · exact Kafka.keeps_of_response? h

/-- **A reader of responses says nothing about errors, or that the protocol reports one.** -/
theorem classifies_of_response? (h : p.response? m = some m') : m.Classifies m' := by
  cases p with
  | http => exact Http.classifies_of_response? h
  | dns => exact Dns.classifies_of_response? h
  | redis => exact Redis.classifies_of_response? h
  | mysql => exact Mysql.classifies_of_response? h
  | kafka => exact .silent (keeps_of_response? (.inr rfl) h)
  | dubbo => exact Dubbo.classifies_of_response? h
  | rocketmq => exact RocketMq.classifies_of_response? h
  | generic => exact .silent (keeps_of_response? (.inl rfl) h)

end Protocol

end Wire

end SocketWatch
