import SocketWatch.Wire.Message
import SocketWatch.Wire.Sql
/-!
# MySQL

A packet has a header of four bytes, length and sequence, and then a byte that tells what it is.
Requests are the two commands that carry a statement. Of the responses, only an error packet says
something; a result set starts with a count of columns that could be anything, so it is believed
only after a request that was understood.
-/

namespace SocketWatch.Wire.Mysql

/-- The length of a packet header. -/
def headerLength : Nat := 4

/-- Read a request. -/
def request? (m : Message) : Option Message :=
  let sql := Utf8.lossy (m.data.drop (headerLength + 1))
  match uint? m.data headerLength 1 with
  | some 0x03 | some 0x16 =>
    if Sql.isStatement sql then
      some (((m.seek m.data.length).putText Label.contentKey (Sql.contentKey sql)).putText
        Label.sql sql)
    else none
  | _ => none

/-- The text of an error packet: state and message where a state is marked, else what follows
the error number. A marked state needs a capture of at least 15 bytes. -/
def errorText (data : List UInt8) : String :=
  if 14 < data.length && data[7]? = some 0x23 then
    Utf8.lossy (window data 8 5) ++ ":" ++ Utf8.lossy (data.drop 13)
  else Utf8.lossy (data.drop 7)

/-- Read a response. -/
def response? (m : Message) : Option Message :=
  if m.data.length < headerLength + 2 then none
  else match uint? m.data headerLength 1 with
    | some 0xFF =>
      let code := (uintLittle? m.data (headerLength + 1) 2).getD 0
      some (((m.putInt Label.sqlErrorCode code).putText Label.sqlErrorMsg
        (errorText m.data)).protocolErrorIf (code ≠ 0))
    | some 0x00 | some 0xFE => some m
    | _ => if m.attributes.contains Label.sql then some m else none

end SocketWatch.Wire.Mysql
