import SocketWatch.Connect.Watcher
import SocketWatch.Event.Json
import SocketWatch.Network
import SocketWatch.Text.Blank
import SocketWatch.Text.Split
/-!
# Watching a stream of events

The watcher reads a stream of events, one JSON document a line, and gives each event to the
connect watcher and to the dialog watcher. A line that holds no event is skipped, but a line that
is no text ends the reading: what comes after it cannot be trusted.

When the stream ends, connection attempts that stayed open are settled, and then every dialog is
finished, however recent, so that nothing that was read is lost.

All of this stops at once where a figure does not fit its word. The step that has such a figure
gives no records; the order in which dialogs are finished at the end is not settled, so that the one
that cannot be finished may come first.
-/

namespace SocketWatch

/-- Why a stream is not watched to its end. -/
inductive StreamError where
  /-- A line of the stream is no text. -/
  | text
  /-- A figure does not fit its word. -/
  | overflow
deriving DecidableEq, Repr

/-- The complaint in words. -/
def StreamError.message : StreamError → String
  | .text => "Failed to read event stream"
  | .overflow => "A figure does not fit its word"

/-- What the watcher works with. -/
structure Watcher where
  /-- Watches dialogs. -/
  network : NetworkWatcher
  /-- Watches connection attempts. -/
  connect : ConnectWatcher

/-- What the watcher keeps. -/
structure WatchState where
  /-- The dialogs. -/
  network : NetworkState := {}
  /-- The connection attempts. -/
  connect : ConnectMonitor := {}
deriving DecidableEq, Inhabited

namespace Watcher

/-- The watcher of a deployment. -/
def ofSettings (s : Settings) (natTable : NatTable) : Watcher :=
  { network := .ofSettings s.network natTable
    connect := { settings := s.connect, natTable } }

variable (w : Watcher)

/-- Take in an event. -/
def consume (s : WatchState) (e : Event) : WatchState × List Record :=
  let (connect, attempts) := w.connect.consume s.connect e
  let (network, exchanges) := w.network.consume s.network e
  (⟨network, connect⟩, attempts ++ exchanges)

/-- The event on a line, if it holds one, blanks around it apart. -/
def event? (line : String) : Option Event :=
  Event.parse? (String.ofList (Text.trim line.toList))

/-- Take in a line. -/
def feed (s : WatchState) (line : List UInt8) : Except StreamError (WatchState × List Record) :=
  match Utf8.text? line with
  | none => .error .text
  | some text =>
    match event? text with
    | none => .ok (s, [])
    | some e =>
      if (w.network.consumeFigures s.network e).all (·.fits) then .ok (w.consume s e)
      else .error .overflow

/-- Take in lines one after the other: the records until the end or until an error, and the
state at the end. -/
def feedAll (s : WatchState) : List (List UInt8) → List Record × Except StreamError WatchState
  | [] => ([], .ok s)
  | line :: rest =>
    match w.feed s line with
    | .error e => ([], .error e)
    | .ok (s, records) =>
      let (more, outcome) := feedAll s rest
      (records ++ more, outcome)

/-- A time after every event. -/
def endOfTime : Nat := Word.count 64 - 1

/-- Finish everything. The socket tables are those at the time `now`. -/
def finish (s : WatchState) (tables : UInt32 → Option SocketTable) (now : Nat) :
    List Record × Except StreamError WatchState :=
  let (connect, attempts) := w.connect.trim s.connect tables now
  if (w.network.reapFigures s.network endOfTime).all (·.fits) then
    let (network, _, exchanges) := w.network.reap s.network endOfTime
    (attempts ++ exchanges, .ok ⟨network, connect⟩)
  else (attempts, .error .overflow)

/-- Watch a whole stream. -/
def run (stream : List UInt8) (tables : UInt32 → Option SocketTable) (now : Nat) :
    List Record × Except StreamError WatchState :=
  match w.feedAll {} (Text.lines stream) with
  | (records, .error e) => (records, .error e)
  | (records, .ok s) =>
    let (more, outcome) := w.finish s tables now
    (records ++ more, outcome)

end Watcher

end SocketWatch
