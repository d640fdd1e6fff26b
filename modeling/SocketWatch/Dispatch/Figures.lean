import SocketWatch.Dialog.Figures
import SocketWatch.Dispatch.Basic
/-!
# The figures behind the records

To ask a protocol about a dialog is to make the records that it would give, and each record has its
figures. A protocol that takes a dialog apart may have made some records before it finds that it
does not recognise the dialog; they are dropped, but their figures were computed. So the figures of
a dispatch are those of more exchanges than there are records.
-/

namespace SocketWatch.Dispatcher

open Wire (Protocol)

variable (r : Dispatcher)

/-- The exchanges of a dialog that is taken apart of which records are made: first those of the
responses, up to one that cannot be read or answers nothing, and if there is none such those of the
requests that are left. -/
def multiplexedReported (p : Protocol) (d : Dialog) : List Dialog :=
  match d.request with
  | none => []
  | some burst =>
    let transport := burst.first.transport
    let requests := burst.events
    match requests.mapM fun q ↦ p.request? { data := q.data, transport } with
    | none => []
    | some messages =>
      let answers := (d.response.elim [] (·.events)).map (answer? p transport messages)
      let found := (answers.takeWhile (·.isSome)).filterMap id
      let answered := found.filterMap fun (i, response, _) ↦
        requests[i]?.map fun q ↦ .single q (some response) d.natTarget burst.limit
      let unanswered := requests.zipIdx.filterMap fun (q, i) ↦
        if (found.map (·.1)).contains i then none
        else some (.single q none d.natTarget burst.limit)
      answered ++ if answers.all (·.isSome) then unanswered else []

/-- The exchanges of which records are made when the protocol at a position is asked. -/
def reportedAt (d : Dialog) (i : Nat) : List Dialog :=
  match r.registry.get? i with
  | none => []
  | some e =>
    if e.protocol.isMultiplexed then multiplexedReported e.protocol d
    else if (r.wholeRecords? e d).isSome then [d] else []

/-- The positions that may be asked about a dialog, in the order in which they are. -/
def candidates (l : Learned) (d : Dialog) : List Nat :=
  match r.settings.boundProtocol? d.port with
  | some key => (r.registry.indexOf? key).toList
  | none => l.cachedAt d.port ++ r.registry.scanOrder

/-- The exchanges of which records are made when a dialog is dispatched: positions are asked until
one recognises the dialog, and if none does there is the record that only names a protocol. A dialog
that only connected has a record without figures. -/
def reported (l : Learned) (d : Dialog) : List Dialog :=
  if d.has .request then
    let positions := r.candidates l d
    let hit := positions.findIdx fun i ↦ (r.records? d i).isSome
    (positions.take (hit + 1)).flatMap (r.reportedAt d)
      ++ if hit < positions.length then [] else [d]
  else []

/-- The figures of dispatching a dialog. -/
def figures (l : Learned) (d : Dialog) : List Figure :=
  (r.reported l d).flatMap Dialog.exchangeFigures

end SocketWatch.Dispatcher
