import SocketWatch.Wire.Message
/-!
# DNS

A message is a header of twelve bytes, questions and answers. On TCP a length of two bytes comes
first, so every position below is taken from a base.

Names are lists of labels. On the wire a name is a run of labels that ends in a zero byte or in a
pointer to where the rest of the name stands. `labelRun` reads one run, `name?` follows the
pointers, at most `maxPointers` of them, and dots are put between the labels only at the very end.

Several queries may be in flight on one socket, so requests and responses are read one by one and
paired by their transaction, see `matching?`.
-/

namespace SocketWatch.Wire.Dns

/-- The length of a header. -/
def headerLength : Nat := 12

/-- The most records of all sections together. -/
def maxRecords : Nat := 25

/-- The longest response, from its base. -/
def maxResponse : Nat := 512

/-- The most pointers that are followed in a name. -/
def maxPointers : Nat := 8

/-- The header of a message. -/
structure Header where
  /-- The transaction. -/
  id : Nat
  /-- Kind of message, operation and outcome. -/
  flags : Nat
  /-- How many questions follow. -/
  questions : Nat
  /-- How many answers follow. -/
  answers : Nat
  /-- How many authority records follow. -/
  authorities : Nat
  /-- How many additional records follow. -/
  additionals : Nat

namespace Header

/-- The records of all sections. -/
def records (h : Header) : Nat := h.questions + h.answers + h.authorities + h.additionals

/-- Whether the message is a response. -/
def isResponse (h : Header) : Bool := h.flags / 0x8000 % 2 = 1

/-- The operation. -/
def opcode (h : Header) : Nat := h.flags / 0x800 % 16

/-- The outcome. -/
def rcode (h : Header) : Nat := h.flags % 16

/-- Whether there is a question and not too many records. -/
def isPlausible (h : Header) : Bool := h.questions ≠ 0 && h.records ≤ maxRecords

end Header

/-- Where the message starts: behind the length on TCP. -/
def base (m : Message) : Nat := if m.transport = .tcp then 2 else 0

/-- The header at a position. -/
def header? (data : List UInt8) (start : Nat) : Option Header := do
  some {
    id := ← uint? data start 2
    flags := ← uint? data (start + 2) 2
    questions := ← uint? data (start + 4) 2
    answers := ← uint? data (start + 6) 2
    authorities := ← uint? data (start + 8) 2
    additionals := ← uint? data (start + 10) 2 }

/-! ### Names -/

/-- How a run of labels ends. -/
inductive Ending where
  /-- The name is complete. -/
  | root
  /-- The name goes on at a position from the base. -/
  | pointer (target : Nat)
deriving DecidableEq, Repr

/-- The labels of a run, how it ends and how many bytes it takes. -/
def labelRun : List UInt8 → Option (List (List UInt8) × Ending × Nat)
  | [] => none
  | n :: rest =>
    if n = 0 then some ([], .root, 1)
    else if 0xC0 ≤ n then match rest with
      | [] => none
      | low :: _ => some ([], .pointer (n.toNat % 64 * 256 + low.toNat), 2)
    else if 0x40 ≤ n then none
    else if rest.length < n.toNat then none
    else (labelRun (rest.drop n.toNat)).map fun (labels, ending, size) ↦
      (rest.take n.toNat :: labels, ending, size + 1 + n.toNat)
termination_by bs => bs.length
decreasing_by simp only [List.length_drop, List.length_cons]; omega

/-- The labels of the name at a position, following at most `hops` pointers, and the position
behind the name. -/
def labels? (data : List UInt8) (base : Nat) : Nat → Nat → Option (List (List UInt8) × Nat)
  | hops, start => do
    let (labels, ending, size) ← labelRun (data.drop start)
    match ending, hops with
    | .root, _ => some (labels, start + size)
    | .pointer _, 0 => none
    | .pointer target, hops + 1 => do
      let (more, _) ← labels? data base hops (base + target)
      some (labels ++ more, start + size)
termination_by structural hops => hops

/-- The text of a name. -/
def nameText (labels : List (List UInt8)) : String := ".".intercalate (labels.map Utf8.lossy)

/-- The name at a position as text, and the position behind it. -/
def name? (data : List UInt8) (base start : Nat) : Option (String × Nat) :=
  (labels? data base maxPointers start).map fun (labels, stop) ↦ (nameText labels, stop)

/-! ### Sections -/

/-- The first name that is not empty among so many questions, and the position behind them.
Behind each name stand its type and class, of which at least one byte must be captured. -/
def questions? (data : List UInt8) (base : Nat) : Nat → Nat → Option (String × Nat)
  | 0, start => some ("", start)
  | n + 1, start => do
    let (name, stop) ← name? data base start
    if data.length ≤ stop then none
    else
      let (later, stop) ← questions? data base n (stop + 4)
      some (if name.isEmpty then later else name, stop)

/-- The addresses among so many answers. Names are taken to be two bytes long, as a pointer is;
the first answer that is cut off ends the list. -/
def addresses (data : List UInt8) : Nat → Nat → List Ipv4
  | 0, _ => []
  | n + 1, start =>
    match uint? data (start + 2) 2, uint? data (start + 10) 2 with
    | some kind, some size =>
      if kind = 1 && size = 4 then
        match uint? data (start + 12) 4 with
        | some ip => ⟨UInt32.ofNat ip⟩ :: addresses data n (start + 12 + size)
        | none => []
      else addresses data n (start + 12 + size)
    | _, _ => []

/-! ### Messages -/

/-- Read a request. -/
def request? (m : Message) : Option Message := do
  let base := base m
  if m.data.length ≤ base + headerLength then none
  else
    let h ← header? m.data base
    if h.isResponse || !h.isPlausible then none
    else
      let (domain, stop) ← questions? m.data base h.questions (base + headerLength)
      some (((m.seek stop).putInt Label.dnsId h.id).putText Label.dnsDomain domain)

/-- Read a response. -/
def response? (m : Message) : Option Message := do
  let base := base m
  if m.data.length ≤ base + headerLength || base + maxResponse < m.data.length then none
  else
    let h ← header? m.data base
    if !h.isResponse || 2 < h.opcode || 5 < h.rcode || !h.isPlausible then none
    else
      let (domain, stop) ← questions? m.data base h.questions (base + headerLength)
      let ips := addresses m.data h.answers stop
      let m := m.putText Label.dnsDomain domain
      let m := if ips.isEmpty then m
        else m.putText Label.dnsIp (",".intercalate (ips.map Ipv4.text))
      let m := (m.putInt Label.dnsId h.id).putInt Label.dnsRcode h.rcode
      some (m.protocolErrorIf (0 < h.rcode))

/-- The first of the requests that has the transaction of the response. -/
def matching? (requests : List Message) (response : Message) : Option Nat :=
  let id := response.attributes.getInt Label.dnsId
  requests.findIdx? fun r ↦ r.attributes.getInt Label.dnsId = id

end SocketWatch.Wire.Dns
