import SocketWatch.CommandLine
import SocketWatch.Json.Writer
import SocketWatch.Settings.Load
import SocketWatch.Watcher
import Std.Time.DateTime.Timestamp
/-!
# The program

Watches the events on standard input or in a file and prints a line for each record. Everything
that is decided is decided by the library; here are the reading, the printing, and the clock.
-/

namespace SocketWatch.Program

/-- The bytes of a file, where it can be read. -/
def readFile? (path : String) : IO (Option (List UInt8)) := do
  try
    let content ← IO.FS.readBinFile path
    return some content.toList
  catch _ => return none

/-- The variables, in the form in which the kernel shows the environment of a process. -/
def variablesOf (content : List UInt8) : List (String × String) :=
  (Text.split (· = 0) content).filterMap fun entry ↦ do
    let cs := (← Utf8.text? entry).toList
    let name := cs.takeWhile (· ≠ '=')
    if name.isEmpty then none
    else some (String.ofList name, String.ofList (cs.drop (name.length + 1)))

/-- The settings of this process. -/
def settings? (environment : List (String × String)) : IO (Option Settings) := do
  match environment.lookup Settings.fileVariable with
  | none => return Settings.load? none environment
  | some path =>
    let some content ← readFile? path | return none
    let some text := Utf8.text? content | return none
    return Settings.load? (some text) environment

/-- Print records, one a line. -/
def print (records : List Record) : IO Unit := do
  for r in records do IO.println r.toJson.render

/-- Take in a stream as it arrives; `pending` is the beginning of a line. -/
partial def feed (w : Watcher) (input : IO.FS.Stream) (s : WatchState) (pending : List UInt8) :
    IO (Except StreamError WatchState) := do
  let chunk ← input.read 65536
  if chunk.isEmpty then
    let (records, outcome) := w.feedAll s (Text.lines pending)
    print records
    return outcome
  else
    let parts := Text.split (· = 0x0A) (pending ++ chunk.toList)
    let (records, outcome) := w.feedAll s parts.dropLast
    print records
    match outcome with
    | .error e => return .error e
    | .ok s => feed w input s (parts.getLast?.getD [])

/-- The socket tables of some processes, as they are now. -/
def readTables (root : String) (pids : List UInt32) : IO (UInt32 → Option SocketTable) := do
  let mut tables : Table UInt32 SocketTable := ∅
  for pid in pids do
    let content ← readFile? (root ++ "/" ++ Numeral.natText pid.toNat ++ "/net/tcp")
    if let some t := content >>= SocketTable.parse? then tables := tables.insert pid t
  return tables.find?

/-- End before the stream does. -/
def giveUp (e : StreamError) : IO CommandLine.Exit := do
  IO.eprintln ("Error: " ++ e.message)
  return .ofError e

/-- Watch a stream to its end. -/
def watch (w : Watcher) (procRoot : String) (input : IO.FS.Stream) : IO CommandLine.Exit := do
  match ← feed w input {} [] with
  | .error e => giveUp e
  | .ok s =>
    let now := (← Std.Time.Timestamp.now).toNanosecondsSinceUnixEpoch.val.toNat
    let tables ← readTables procRoot (w.connect.trimPids s.connect now)
    let (records, outcome) := w.finish s tables now
    print records
    match outcome with
    | .error e => giveUp e
    | .ok _ => return .success

/-- Watch what the options ask for. -/
def watchInput (w : Watcher) (procRoot : String) (options : CommandLine.Options) :
    IO CommandLine.Exit := do
  match options.input with
  | none => watch w procRoot (← IO.getStdin)
  | some path =>
    let opened ← try
        pure (some (← IO.FS.Handle.mk path .read))
      catch _ => pure none
    match opened with
    | none =>
      IO.eprintln ("Error: Failed to open " ++ path)
      return .failure
    | some h => watch w procRoot (.ofHandle h)

/-- Run the program. -/
def run (arguments : List String) : IO CommandLine.Exit := do
  match CommandLine.parse arguments with
  | .error e =>
    IO.eprintln ("error: " ++ e.message)
    return .usage
  | .ok .help =>
    IO.print CommandLine.helpText
    return .success
  | .ok (.watch options) =>
    let environment := variablesOf ((← readFile? "/proc/self/environ").getD [])
    let some settings ← settings? environment
      | IO.eprintln "Error: Failed to load settings"
        return .failure
    if options.verbose then IO.eprintln "Watching events"
    let procRoot := (environment.lookup "HOST_PROC_PATH").getD "/proc"
    watchInput (.ofSettings settings .none) procRoot options

end SocketWatch.Program

/-- Run the program and exit with its code. -/
def main (arguments : List String) : IO UInt32 := do
  return (← SocketWatch.Program.run arguments).code
