import SocketWatch.Wire.Message
/-!
# Redis

A client sends a command as an array of bulk strings; the first of them is the command word, and
a request is recognised as soon as that word was captured. A response is recognised by the first
byte, which tells the kind of reply.
-/

namespace SocketWatch.Wire.Redis

/-- The longest command word. -/
def maxCommand : Nat := 20

/-- The integer a line holds. -/
def int? (line : List UInt8) : Option Int :=
  Numeral.int64? 10 (line.map fun b ↦ Char.ofNat b.toNat)

/-- Whether a word can be a command. -/
def isCommand (word : List UInt8) : Bool :=
  !word.isEmpty && word.length ≤ maxCommand && word.all Ascii.isLetter

/-- The number in a line that starts with a mark, and what follows the line. -/
def marked? (mark : UInt8) : List UInt8 → Option (Int × List UInt8)
  | [] => none
  | b :: bs =>
    if b = mark then do
      let (line, rest) ← line? bs
      some (← int? line, rest)
    else none

/-- The command word of an array of bulk strings, and what follows the word. -/
def command? (bs : List UInt8) : Option (List UInt8 × List UInt8) := do
  let (count, rest) ← marked? 0x2A bs
  if count ≤ 0 then none
  else
    let (size, rest) ← marked? 0x24 rest
    if size < 0 then none
    else
      let word := rest.take size.toNat
      if word.length = size.toNat && isCommand word then some (word, rest.drop size.toNat)
      else none

/-- Read a request. -/
def request? (m : Message) : Option Message := do
  let (word, rest) ← command? m.data
  some ((m.seek (m.data.length - rest.length)).putText Label.redisCommand
    (Ascii.upper (Utf8.lossy word)))

/-- Read a response. An error reply carries its text up to the end of the line or of the
capture. -/
def response? (m : Message) : Option Message :=
  match m.data with
  | 0x2B :: _ | 0x2A :: _ | 0x24 :: _ | 0x3A :: _ => some m
  | 0x2D :: rest =>
    let text := ((line? rest).map (·.1)).getD rest
    some (m.putText Label.redisError (Utf8.lossy text)).protocolError
  | _ => none

end SocketWatch.Wire.Redis
