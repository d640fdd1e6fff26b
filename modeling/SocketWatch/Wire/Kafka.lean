import SocketWatch.Wire.Message
/-!
# Kafka

A request starts with its length, the call and its version, a correlation number and the name of
the client. A response starts with its length and the correlation number of its request. There is
no magic number, so every field is checked for what a client would send.
-/

namespace SocketWatch.Wire.Kafka

/-- The length of a request up to the name of the client. -/
def minRequest : Nat := 14

/-- The length of a response up to its body. -/
def minResponse : Nat := 8

/-- The highest call in use. -/
def maxApiKey : Int := 74

/-- The highest version of a call in use. -/
def maxApiVersion : Int := 17

/-- Read a request. A client without a name sends the length -1. -/
def request? (m : Message) : Option Message := do
  let length ← int? m.data 0 4
  let apiKey ← int? m.data 4 2
  let apiVersion ← int? m.data 6 2
  let correlation ← int? m.data 8 4
  let clientLength ← int? m.data 12 2
  let stop := minRequest + clientLength.toNat
  if length ≤ 8 || apiKey < 0 || maxApiKey < apiKey || apiVersion < 0
      || maxApiVersion < apiVersion || correlation < 0 || clientLength < -1
      || m.data.length < stop then none
  else some (((m.seek stop).putInt Label.kafkaApiKey apiKey).putInt Label.kafkaCorrelationId
    correlation)

/-- Read a response. Where the correlation number of the request is known, it must be echoed. -/
def response? (m : Message) : Option Message := do
  let length ← int? m.data 0 4
  let correlation ← int? m.data 4 4
  if length < 4 || correlation < 0 then none
  else if m.attributes.contains Label.kafkaCorrelationId
      && (m.attributes.getInt Label.kafkaCorrelationId).toInt ≠ correlation then none
  else some ((m.seek minResponse).putInt Label.kafkaCorrelationId correlation)

end SocketWatch.Wire.Kafka
