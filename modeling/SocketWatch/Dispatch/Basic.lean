import SocketWatch.Dialog.Report
import SocketWatch.Dispatch.Registry
/-!
# Finding the protocol of a dialog

A finished dialog is turned into records by the protocol that recognises it. Which protocols are
asked depends on the destination port:

1. A port bound to a protocol by the settings belongs to that protocol, recognised or not.
2. Else the protocols cached for the port are asked in turn. A protocol enters the cache when it
   has been recognised on the port `cacheThreshold` times by a scan.
3. Else all protocols are tried in the order of the registry.

The generic protocol takes everything, so a port where it is cached would never be scanned again.
Therefore it leaves the cache after `retryThreshold` hits, which gives the others another chance.

`records?` asks one protocol and has no state; `dispatch` is the step of the state that the
adaptive part keeps.
-/

namespace SocketWatch

open Wire (Message Protocol)

/-- How often each way of finding the protocol gave the records of a dialog. -/
structure Resolutions where
  /-- The port is bound to the protocol. -/
  bound : Nat := 0
  /-- The protocol was cached for the port. -/
  cached : Nat := 0
  /-- The protocol was found by a scan. -/
  scanned : Nat := 0
  /-- No protocol took the dialog. -/
  unresolved : Nat := 0
deriving DecidableEq, Repr, Inhabited

/-- What the dispatcher has learned. -/
structure Learned where
  /-- The positions of the protocols cached for each port, in the order in which they are
  asked. -/
  cache : Table UInt16 (List Nat) := ∅
  /-- How often each protocol was recognised on each port. -/
  hits : PortHits := ∅
  /-- How the dialogs so far were resolved. -/
  resolutions : Resolutions := {}
deriving DecidableEq, Inhabited

namespace Learned

/-- Hits of a protocol on a port after which it is cached there. -/
def cacheThreshold : Nat := 50

/-- Hits of the cached generic protocol on a port after which it is dropped there. -/
def retryThreshold : Nat := 5000

/-- The positions cached for a port. -/
def cachedAt (l : Learned) (port : UInt16) : List Nat := (l.cache.find? port).getD []

/-- Put a position behind those cached for a port, unless it is one of them. -/
def addCached (l : Learned) (port : UInt16) (i : Nat) : Learned :=
  let cached := l.cachedAt port
  { l with cache := l.cache.insert port (if cached.contains i then cached else cached ++ [i]) }

/-- Remove a position from those cached for a port. -/
def removeCached (l : Learned) (port : UInt16) (i : Nat) : Learned :=
  match (l.cachedAt port).filter (· ≠ i) with
  | [] => { l with cache := l.cache.erase port }
  | rest => { l with cache := l.cache.insert port rest }

/-- Learn from a hit in a scan: at the threshold the protocol is cached for the port. -/
def scanned (l : Learned) (port : UInt16) (i : Nat) : Learned :=
  let hits := l.hits.add i port
  let l := { l with hits, resolutions.scanned := l.resolutions.scanned + 1 }
  if hits.count i port = cacheThreshold then l.addCached port i else l

/-- Learn from a hit in the cache, and whether it was the generic protocol: only that one is
counted, and dropped at its threshold. -/
def cachedHit (l : Learned) (port : UInt16) (i : Nat) (isGeneric : Bool) : Learned :=
  let l := { l with resolutions.cached := l.resolutions.cached + 1 }
  if isGeneric then
    let hits := l.hits.add i port
    if hits.count i port = retryThreshold then
      { l with hits := hits.reset i port }.removeCached port i
    else { l with hits }
  else l

end Learned

/-- What the dispatcher works with. -/
structure Dispatcher where
  /-- The settings for dialogs. -/
  settings : NetworkSettings
  /-- The protocols that can be recognised. -/
  registry : Registry
deriving DecidableEq, Inhabited

namespace Dispatcher

variable (r : Dispatcher)

/-- The dispatcher of a deployment. -/
def ofSettings (s : NetworkSettings) : Dispatcher := ⟨s, .ofSettings s⟩

/-! ### Asking one protocol -/

/-- The record that only names the protocol. -/
def bareRecords (d : Dialog) (key : String) : List Record :=
  (d.exchangeRecord? r.settings key ∅ (r.registry.payloadLength key)).toList

/-- The records of a dialog that is read as one request and one response. -/
def wholeRecords? (e : Registration) (d : Dialog) : Option (List Record) := do
  let request ← d.request
  let transport := request.first.transport
  let m ← e.protocol.request? { data := request.data, transport }
  let found ← match d.response with
    | none => some m.attributes
    | some response => do
      let m ← e.protocol.response?
        { data := response.data, transport, attributes := m.attributes }
      some m.attributes
  let record ← d.exchangeRecord? r.settings e.protocol.key found e.payloadLength
  some [record]

/-- The records of one request of a dialog and its response, if it has one. -/
def unitRecords (e : Registration) (d : Dialog) (limit : Nat) (request : Event)
    (response : Option Event) (found : Attributes) : List Record :=
  ((Dialog.single request response d.natTarget limit).exchangeRecord? r.settings
    e.protocol.key found e.payloadLength).toList

/-- Read a response event and find the position of the request it answers among those read. -/
def answer? (p : Protocol) (transport : Transport) (requests : List Message) (response : Event) :
    Option (Nat × Event × Attributes) := do
  let m ← p.response? { data := response.data, transport }
  let i ← p.matching? requests m
  let request ← requests[i]?
  some (i, response, request.attributes.overlay m.attributes)

/-- The records of a dialog whose requests and responses are read one by one: first those that
were answered, in the order of the responses, then the others, in the order of the requests. -/
def multiplexedRecords? (e : Registration) (d : Dialog) : Option (List Record) := do
  let burst ← d.request
  let transport := burst.first.transport
  let requests := burst.events
  let messages ← requests.mapM fun q ↦ e.protocol.request? { data := q.data, transport }
  let responses := d.response.elim [] (·.events)
  let answers ← responses.mapM (answer? e.protocol transport messages)
  let answered ← answers.mapM fun (i, response, found) ↦ do
    some (r.unitRecords e d burst.limit (← requests[i]?) (some response) found)
  let unanswered := (requests.zip messages).zipIdx.filter fun (_, i) ↦
    !(answers.map (·.1)).contains i
  some (answered.flatten ++ unanswered.flatMap fun ((q, m), _) ↦
    r.unitRecords e d burst.limit q none m.attributes)

/-- The records of a dialog if the protocol at a position recognises it. -/
def records? (d : Dialog) (i : Nat) : Option (List Record) := do
  let e ← r.registry.get? i
  if e.protocol.isMultiplexed then r.multiplexedRecords? e d else r.wholeRecords? e d

/-- The first of some positions whose protocol recognises a dialog, and the records. -/
def firstRecords? (d : Dialog) (positions : List Nat) : Option (Nat × List Record) :=
  positions.findSome? fun i ↦ (r.records? d i).map fun rs ↦ (i, rs)

/-! ### The adaptive step -/

/-- Whether the protocol at a position is the generic one. -/
def isGeneric (i : Nat) : Bool := (r.registry.get? i).any (·.protocol = .generic)

/-- The records of a dialog on a port that is bound to a protocol. -/
def boundRecords (d : Dialog) (key : String) : List Record :=
  if d.has .request then
    ((r.registry.indexOf? key).bind (r.records? d)).getD (r.bareRecords d key)
  else (d.connectRecord? key).toList

/-- The records of a finished dialog, and what is learned from it. -/
def dispatch (l : Learned) (d : Dialog) : Learned × List Record :=
  match r.settings.boundProtocol? d.port with
  | some key =>
    ({ l with resolutions.bound := l.resolutions.bound + 1 }, r.boundRecords d key)
  | none =>
    if !d.has .request then (l, (d.connectRecord? Protocol.generic.key).toList)
    else match r.firstRecords? d (l.cachedAt d.port) with
      | some (i, records) => (l.cachedHit d.port i (r.isGeneric i), records)
      | none => match r.firstRecords? d r.registry.scanOrder with
        | some (i, records) => (l.scanned d.port i, records)
        | none =>
          ({ l with resolutions.unresolved := l.resolutions.unresolved + 1 },
            r.bareRecords d Protocol.generic.key)

/-- The protocols cached for a port, in the order in which they are asked. -/
def cachedProtocols (l : Learned) (port : UInt16) : List String :=
  (l.cachedAt port).filterMap fun i ↦ (r.registry.get? i).map (·.protocol.key)

end Dispatcher

end SocketWatch
