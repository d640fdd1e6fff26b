/-!
# The vocabulary of records

The names under which records carry their labels and gauges, the groups they belong to, and the
classification of errors.
-/

namespace SocketWatch

/-! ### Groups -/

namespace Group

/-- Records of requests and their responses. -/
def netRequest : String := "net_request_metric_group"

/-- Records of connection attempts. -/
def tcpConnect : String := "tcp_connect_metric_group"

end Group

/-! ### Gauges -/

namespace Gauge

/-- Time spent connecting. -/
def connectTime : String := "connect_time"

/-- Time spent sending the request. -/
def requestSentTime : String := "request_sent_time"

/-- Time between the last byte of the request and the first of the response. -/
def waitingTime : String := "waiting_ttfb_time"

/-- Time spent receiving the response. -/
def downloadTime : String := "content_download_time"

/-- Time from connecting to the last byte of the response. -/
def totalTime : String := "request_total_time"

/-- Bytes sent by the client. -/
def requestBytes : String := "request_io"

/-- Bytes sent by the server. -/
def responseBytes : String := "response_io"

/-- Counts connection attempts. -/
def connectCount : String := "tcp_connect_total"

/-- Time a connection took to be established. -/
def connectDuration : String := "tcp_connect_duration"

end Gauge

/-! ### Labels -/

namespace Label

/-- The process. -/
def pid : String := "pid"

/-- The command. -/
def comm : String := "comm"

/-- The thread that handled the request. -/
def requestTid : String := "request_tid"

/-- The thread that handled the response. -/
def responseTid : String := "response_tid"

/-- The source address. -/
def srcIp : String := "src_ip"

/-- The destination address. -/
def dstIp : String := "dst_ip"

/-- The source port. -/
def srcPort : String := "src_port"

/-- The destination port. -/
def dstPort : String := "dst_port"

/-- The destination address behind NAT. -/
def dnatIp : String := "dnat_ip"

/-- The destination port behind NAT. -/
def dnatPort : String := "dnat_port"

/-- The container. -/
def containerId : String := "container_id"

/-- The application protocol. -/
def protocol : String := "protocol"

/-- Whether the traced process is the server side. -/
def isServer : String := "is_server"

/-- Whether the response took too long. -/
def isSlow : String := "is_slow"

/-- Whether something went wrong. -/
def isError : String := "is_error"

/-- What went wrong, see `ErrorKind`. -/
def errorType : String := "error_type"

/-- When the last byte of the response was seen. -/
def endTimestamp : String := "end_timestamp"

/-- The beginning of the request. -/
def requestPayload : String := "request_payload"

/-- The beginning of the response. -/
def responsePayload : String := "response_payload"

/-- What groups requests of the same kind. -/
def contentKey : String := "content_key"

/-- The method of an HTTP request. -/
def httpMethod : String := "http_method"

/-- The target of an HTTP request. -/
def httpUrl : String := "http_url"

/-- The status of an HTTP response. -/
def httpStatusCode : String := "http_status_code"

/-- The beginning of an HTTP response. -/
def httpResponsePayload : String := "http_response_payload"

/-- The tracing system whose header was found. -/
def traceType : String := "trace_type"

/-- The trace a request belongs to. -/
def traceId : String := "trace_id"

/-- The transaction of a DNS message. -/
def dnsId : String := "dns_id"

/-- The name a DNS message asks for. -/
def dnsDomain : String := "dns_domain"

/-- The addresses a DNS response gives. -/
def dnsIp : String := "dns_ip"

/-- The response code of a DNS response. -/
def dnsRcode : String := "dns_rcode"

/-- The command of a Redis request. -/
def redisCommand : String := "redis_command"

/-- The error line of a Redis response. -/
def redisError : String := "redis_error"

/-- The statement of a MySQL request. -/
def sql : String := "sql"

/-- The error number of a MySQL response. -/
def sqlErrorCode : String := "sql_error_code"

/-- The error text of a MySQL response. -/
def sqlErrorMsg : String := "sql_error_msg"

/-- The call of a Kafka request. -/
def kafkaApiKey : String := "kafka_api_key"

/-- The number that ties a Kafka response to its request. -/
def kafkaCorrelationId : String := "kafka_correlation_id"

/-- The status of a Dubbo response. -/
def dubboErrorCode : String := "dubbo_error_code"

/-- The number that ties a RocketMQ response to its request. -/
def rocketmqOpaque : String := "rocketmq_opaque"

/-- The call of a RocketMQ request. -/
def rocketmqRequestMsg : String := "rocketmq_request_msg"

/-- The code of a RocketMQ response. -/
def rocketmqErrorCode : String := "rocketmq_error_code"

/-- The error text of a RocketMQ response. -/
def rocketmqErrorMsg : String := "rocketmq_error_msg"

/-- The error number of a connection attempt. -/
def errno : String := "errno"

/-- Whether a connection attempt succeeded. -/
def success : String := "success"

end Label

/-! ### Errors -/

/-- What went wrong in a dialog. -/
inductive ErrorKind where
  /-- Nothing. -/
  | noError
  /-- The connection was never used. -/
  | connectFail
  /-- The request was not answered. -/
  | noResponse
  /-- The protocol reports an error. -/
  | protocolError
deriving DecidableEq, Repr, Inhabited

/-- The number that labels carry for an error. -/
def ErrorKind.code : ErrorKind → Int
  | .noError => 0
  | .connectFail => 1
  | .noResponse => 2
  | .protocolError => 3

end SocketWatch
