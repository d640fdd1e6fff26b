import SocketWatch.Wire.Dns
import SocketWatch.Wire.Dubbo
import SocketWatch.Wire.Http
import SocketWatch.Wire.Kafka
import SocketWatch.Wire.Mysql
import SocketWatch.Wire.Redis
import SocketWatch.Wire.RocketMq
/-!
# Application protocols

The protocols that can be recognised, and for each how a request and a response are read. The
generic protocol stands for traffic that nobody recognises; its readers take everything and add
nothing.
-/

namespace SocketWatch.Wire

/-- An application protocol. -/
inductive Protocol where
  | http | dns | redis | mysql | kafka | dubbo | rocketmq | generic
deriving DecidableEq, Repr, Inhabited

namespace Protocol

/-- The word for a protocol. -/
def key : Protocol → String
  | .http => "http"
  | .dns => "dns"
  | .redis => "redis"
  | .mysql => "mysql"
  | .kafka => "kafka"
  | .dubbo => "dubbo"
  | .rocketmq => "rocketmq"
  | .generic => "generic"

/-- The protocols that are recognised by what they say, which is all but the generic one. -/
def specific : List Protocol := [.http, .dns, .redis, .mysql, .kafka, .dubbo, .rocketmq]

/-- The specific protocol of a word. -/
def ofKey? (s : String) : Option Protocol := specific.find? (·.key = s)

/-- Whether one dialog may hold several requests that are answered in any order, so that the
messages are read one by one and paired by `matching?`. -/
def isMultiplexed : Protocol → Bool
  | .dns => true
  | _ => false

/-- Read a request. -/
def request? : Protocol → Message → Option Message
  | .http => Http.request?
  | .dns => Dns.request?
  | .redis => Redis.request?
  | .mysql => Mysql.request?
  | .kafka => Kafka.request?
  | .dubbo => Dubbo.request?
  | .rocketmq => RocketMq.request?
  | .generic => some

/-- Read a response; the message starts with the attributes of its request. -/
def response? : Protocol → Message → Option Message
  | .http => Http.response?
  | .dns => Dns.response?
  | .redis => Redis.response?
  | .mysql => Mysql.response?
  | .kafka => Kafka.response?
  | .dubbo => Dubbo.response?
  | .rocketmq => RocketMq.response?
  | .generic => some

/-- The request that a response answers. -/
def matching? : Protocol → List Message → Message → Option Nat
  | .dns => Dns.matching?
  | _ => fun _ _ ↦ none

@[simp] theorem request?_generic (m : Message) : generic.request? m = some m := rfl

@[simp] theorem response?_generic (m : Message) : generic.response? m = some m := rfl

end Protocol

end SocketWatch.Wire
