import SocketWatch.Dialog.Store
/-!
# The figures behind a dialog

Times are words of 64 bits, and results are words of 64 bits of which one is the sign. What is
computed from them is computed here in numbers that have no bound, which is right as long as every
sum and every difference fits the word it is put into. A **figure** is such a sum or difference,
before it is put into its word. The figures of each step are listed beside the step: those of
folding an event into the store, and those of the record of an exchange.

A difference that is cut off at zero always fits and is no figure.
-/

namespace SocketWatch

/-- A sum or a difference that is to be put into a word. -/
inductive Figure where
  /-- The word has no sign. -/
  | unsigned (value : Int)
  /-- One bit of the word is the sign. -/
  | signed (value : Int)
deriving DecidableEq, Repr, Inhabited

/-- Whether the word can hold it. -/
def Figure.fits : Figure → Bool
  | .unsigned value => Word.fits 64 value
  | .signed value => Word.fitsSigned 64 value

namespace Burst

variable (b : Burst) (e : Event)

/-- The figures of adding an event: its time and the time so far, from which the time of the event
before is then taken off, and the results. -/
def mergeFigures : List Figure :=
  [.unsigned (e.timestamp.toNat + b.duration), .signed (b.result + e.result.toInt)]

/-- The figures of asking whether an event comes too late. -/
def ageFigures : List Figure :=
  if e.timestamp.toNat < b.first.startTime then []
  else [.unsigned (e.timestamp.toNat - b.first.startTime)]

end Burst

namespace Dialog

/-- The figures of the time between request and response. -/
def waitingFigures (d : Dialog) : List Figure :=
  match d.request, d.response with
  | some req, some resp =>
    let begun := Time.signed resp.firstTimestamp - Time.signed resp.first.latency.toNat
    [.signed begun, .signed (begun - Time.signed req.lastTimestamp)]
  | _, _ => []

/-- The figures of the record of an exchange. -/
def exchangeFigures (d : Dialog) : List Figure :=
  if d.has .request then d.waitingFigures ++ [.unsigned (d.connectDuration + d.duration)] else []

/-- The figures of folding an event of a phase into a dialog. Its age is not looked at where it is
settled without it that the dialog is superseded, and nothing is added to a dialog that is. -/
def foldFigures (d : Dialog) (settings : NetworkSettings) (p : Phase) (e : Event) : List Figure :=
  let age := (d.get p).elim [] (·.ageFigures e)
  let merge := (d.get p).elim [] (·.mergeFigures e)
  match p with
  | .connect =>
    (if d.has .request then [] else age) ++
      if DialogStore.supersededByConnect d e settings.connectTimeoutSecs then [] else merge
  | .request =>
    (if d.has .response then [] else age) ++
      if DialogStore.supersededByRequest d e settings.requestTimeoutSecs then [] else merge
  | .response => if d.has .request then merge else []

end Dialog

/-- The figures of folding an event into the store. -/
def DialogStore.figures (s : DialogStore) (settings : NetworkSettings) (admitUdp : Bool)
    (e : Event) : List Figure :=
  match e.phase? admitUdp, s.entries.find? (.ofEvent e) with
  | some p, some o => o.dialog.foldFigures settings p e
  | _, _ => []

end SocketWatch
