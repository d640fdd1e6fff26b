import SocketWatch.Attribute
import SocketWatch.Binary64
import SocketWatch.CommandLine
import SocketWatch.Connect.Attempt
import SocketWatch.Connect.Lifecycle
import SocketWatch.Connect.Monitor
import SocketWatch.Connect.SocketTable
import SocketWatch.Connect.Watcher
import SocketWatch.Dialog.Basic
import SocketWatch.Dialog.Burst
import SocketWatch.Dialog.Key
import SocketWatch.Dialog.Report
import SocketWatch.Dialog.Store
import SocketWatch.Dispatch.Basic
import SocketWatch.Dispatch.Registry
import SocketWatch.Event.Basic
import SocketWatch.Event.Json
import SocketWatch.Fields
import SocketWatch.FourTuple
import SocketWatch.Ipv4
import SocketWatch.Json.Basic
import SocketWatch.Json.Reader
import SocketWatch.Json.Record
import SocketWatch.Json.Writer
import SocketWatch.Main
import SocketWatch.Network
import SocketWatch.Proofs.Connect.Life
import SocketWatch.Proofs.Connect.Run
import SocketWatch.Proofs.Connect.Slot
import SocketWatch.Proofs.Dialog.Built
import SocketWatch.Proofs.Dialog.Conservation
import SocketWatch.Proofs.Dialog.Figures
import SocketWatch.Proofs.Dialog.History
import SocketWatch.Proofs.Dialog.Independence
import SocketWatch.Proofs.Dialog.Invariant
import SocketWatch.Proofs.Dialog.Merge
import SocketWatch.Proofs.Dialog.Reaping
import SocketWatch.Proofs.Dialog.Report
import SocketWatch.Proofs.Dialog.Rounds
import SocketWatch.Proofs.Dialog.Run
import SocketWatch.Proofs.Dialog.Slot
import SocketWatch.Proofs.Dialog.Store
import SocketWatch.Proofs.Dialog.Timing
import SocketWatch.Proofs.Dialog.Merging
import SocketWatch.Proofs.Dialog.Window
import SocketWatch.Proofs.Dispatch.Attribution
import SocketWatch.Proofs.Dispatch.Cache
import SocketWatch.Proofs.Dispatch.Choice
import SocketWatch.Proofs.Dispatch.Finding
import SocketWatch.Proofs.Dispatch.Learned
import SocketWatch.Proofs.Dispatch.Outcome
import SocketWatch.Proofs.Dispatch.Pairing
import SocketWatch.Proofs.Dispatch.Registering
import SocketWatch.Proofs.Dispatch.Registry
import SocketWatch.Proofs.Dispatch.Run
import SocketWatch.Proofs.Fields
import SocketWatch.Proofs.Ipv4
import SocketWatch.Proofs.Network.DnsRound
import SocketWatch.Proofs.Network.Figures
import SocketWatch.Proofs.Network.Flush
import SocketWatch.Proofs.Network.InFlight
import SocketWatch.Proofs.Stepwise
import SocketWatch.Proofs.Table
import SocketWatch.Proofs.Traverse
import SocketWatch.Proofs.Wire.Classification
import SocketWatch.Proofs.Wire.Correlation
import SocketWatch.Proofs.Wire.Dns
import SocketWatch.Record.Basic
import SocketWatch.Record.Vocabulary
import SocketWatch.Settings.Basic
import SocketWatch.Settings.Load
import SocketWatch.Settings.Path
import SocketWatch.Settings.Value
import SocketWatch.Settings.Yaml.Block
import SocketWatch.Settings.Yaml.Cursor
import SocketWatch.Settings.Yaml.Document
import SocketWatch.Settings.Yaml.Layout
import SocketWatch.Settings.Yaml.Node
import SocketWatch.Settings.Yaml.Plain
import SocketWatch.Settings.Yaml.Quoted
import SocketWatch.Settings.Yaml.Tag
import SocketWatch.Settings.Yaml.Token
import SocketWatch.Settings.Yaml.Tokens
import SocketWatch.Table
import SocketWatch.Text.Ascii
import SocketWatch.Text.Base64
import SocketWatch.Text.Blank
import SocketWatch.Text.Numeral
import SocketWatch.Text.Split
import SocketWatch.Text.Utf8
import SocketWatch.Time
import SocketWatch.Watcher
import SocketWatch.Wire.Bytes
import SocketWatch.Wire.Dns
import SocketWatch.Wire.Dubbo
import SocketWatch.Wire.HeaderBlock
import SocketWatch.Wire.Http
import SocketWatch.Wire.Kafka
import SocketWatch.Wire.Message
import SocketWatch.Wire.Mysql
import SocketWatch.Wire.Protocol
import SocketWatch.Wire.Redis
import SocketWatch.Wire.RocketMq
import SocketWatch.Wire.Sql
import SocketWatch.Wire.TraceHeader
import SocketWatch.Word
import SocketWatch.Proofs.Connect.Refusal
import SocketWatch.Proofs.Connect.Trim
import SocketWatch.Proofs.Connect.Tuple
import SocketWatch.Proofs.Network.Translation
import SocketWatch.Proofs.Network.ArrivalOrder
import SocketWatch.Proofs.Network.DnsPairing
import SocketWatch.Proofs.Connect.Errno
import SocketWatch.Proofs.Connect.Repetition
import SocketWatch.Proofs.Dispatch.Identity
import SocketWatch.Proofs.Dispatch.PlainText
import SocketWatch.Proofs.Wire.Bytes
import SocketWatch.Proofs.Wire.Guarded.Basic
import SocketWatch.Proofs.Wire.Guarded.Binary
import SocketWatch.Proofs.Wire.Guarded.Dns
import SocketWatch.Proofs.Wire.Guarded.Dubbo
import SocketWatch.Proofs.Wire.Guarded.Http
import SocketWatch.Proofs.Wire.Guarded.Lines
import SocketWatch.Proofs.Wire.Guarded.Protocol
import SocketWatch.Proofs.Wire.Guarded.RocketMq
import SocketWatch.Proofs.Wire.DnsFraming
import SocketWatch.Proofs.Connect.Vanished
import SocketWatch.Proofs.Dialog.ReapingTwice
import SocketWatch.Proofs.Network.DnsRepeated
import SocketWatch.Proofs.Wire.Capture
import SocketWatch.Proofs.Wire.DnsAddresses
import SocketWatch.Proofs.Wire.DnsName
import SocketWatch.Proofs.Wire.DnsWalk
import SocketWatch.Proofs.Wire.HeaderLines
import SocketWatch.Proofs.Wire.HttpStart
import SocketWatch.Proofs.Wire.RocketMqFrame
import SocketWatch.Proofs.Event.RoundTrip
import SocketWatch.Proofs.Json.Scalars
import SocketWatch.Proofs.Json.ReadBack
import SocketWatch.Proofs.Json.Record
import SocketWatch.Proofs.Text.Ascii
import SocketWatch.Proofs.Text.Blank
import SocketWatch.Proofs.Text.Numeral
import SocketWatch.Proofs.Text.Utf8
import SocketWatch.Proofs.Wire.DubboFrame
import SocketWatch.Proofs.Wire.MysqlError
import SocketWatch.Proofs.Wire.RedisCommand
import SocketWatch.Proofs.Wire.SqlKey
