import SocketWatch.Watcher
/-!
# The command line

Options are read from left to right, and the first mistake or request for help decides. A long
option takes its value behind an equals sign or as the next argument; a short one also right
behind its letter, and short options without a value may be run together. An argument that
begins with a hyphen is never the value of an option, a single hyphen apart.
-/

namespace SocketWatch.CommandLine

/-- What can be chosen on the command line. -/
structure Options where
  /-- Report what the watcher is doing. -/
  verbose : Bool := false
  /-- The file to read events from, in place of standard input. -/
  input : Option String := none
deriving DecidableEq, Repr, Inhabited

/-- What the command line asks for. -/
inductive Request where
  /-- To watch a stream. -/
  | watch (options : Options)
  /-- To explain the options. -/
  | help
deriving DecidableEq, Repr

/-- What is wrong with a command line. -/
inductive UsageError where
  /-- No option has this name, and no argument can stand alone. -/
  | unexpected (argument : String)
  /-- An option lacks its value. -/
  | missingValue (option : String)
  /-- An option that takes no value was given one. -/
  | unexpectedValue (option : String)
  /-- An option was given twice. -/
  | repeated (option : String)
deriving DecidableEq, Repr

/-- The complaint in words. -/
def UsageError.message : UsageError → String
  | .unexpected argument => "unexpected argument '" ++ argument ++ "'"
  | .missingValue option => "a value is required for '" ++ option ++ "'"
  | .unexpectedValue option => "no value is allowed for '" ++ option ++ "'"
  | .repeated option => "the option '" ++ option ++ "' cannot be used twice"

/-- The explanation of the options. -/
def helpText : String :=
  "Usage: socketwatch [OPTIONS]\n\n" ++
  "Options:\n" ++
  "  -v, --verbose        Verbose output\n" ++
  "  -i, --input <INPUT>  Newline-delimited JSON events to replay; reads stdin when omitted\n" ++
  "  -h, --help           Print help\n"

/-- Exit codes. -/
inductive Exit where
  | success | failure | usage | overflow
deriving DecidableEq, Repr

/-- The number of an exit code. -/
def Exit.code : Exit → UInt32
  | .success => 0
  | .failure => 1
  | .usage => 2
  | .overflow => 101

/-- How the program ends where a stream is not watched to its end. -/
def Exit.ofError : StreamError → Exit
  | .text => .failure
  | .overflow => .overflow

/-! ### Options -/

/-- Choose more output. -/
def Options.chooseVerbose (o : Options) : Except UsageError Options :=
  if o.verbose then .error (.repeated "--verbose") else .ok { o with verbose := true }

/-- Choose the file to read; a value may not be empty. -/
def Options.chooseInput (o : Options) (value : List Char) : Except UsageError Options :=
  if value.isEmpty then .error (.missingValue "--input")
  else if o.input.isSome then .error (.repeated "--input")
  else .ok { o with input := some (String.ofList value) }

/-- Whether an argument can be the value of an option. -/
def isValue (argument : List Char) : Bool := argument.head? ≠ some '-' || argument.length = 1

/-- What an argument leads to. -/
inductive Step where
  /-- On with the next argument. -/
  | next (options : Options)
  /-- The next argument is the file to read. -/
  | awaitInput (options : Options)
  /-- Explain the options. -/
  | help

/-- Read short options that are run together. -/
def short (o : Options) : List Char → Except UsageError Step
  | [] => .ok (.next o)
  | 'v' :: rest => do short (← o.chooseVerbose) rest
  | 'h' :: _ => .ok .help
  | 'i' :: rest =>
    match rest with
    | [] => .ok (.awaitInput o)
    | '=' :: value => (o.chooseInput value).map .next
    | value => (o.chooseInput value).map .next
  | c :: _ => .error (.unexpected (String.ofList ['-', c]))

/-- Read a long option, the hyphens left out. -/
def long (o : Options) (argument : List Char) : Except UsageError Step :=
  let name := argument.takeWhile (· ≠ '=')
  let value? := if argument.contains '=' then some (argument.drop (name.length + 1)) else none
  if name = "verbose".toList then
    if value?.isSome then .error (.unexpectedValue "--verbose") else o.chooseVerbose.map .next
  else if name = "help".toList then
    if value?.isSome then .error (.unexpectedValue "--help") else .ok .help
  else if name = "input".toList then
    match value? with
    | some value => (o.chooseInput value).map .next
    | none => .ok (.awaitInput o)
  else .error (.unexpected (String.ofList ('-' :: '-' :: name)))

/-- Read an argument. -/
def step (o : Options) (argument : List Char) : Except UsageError Step :=
  match argument with
  | '-' :: '-' :: name => long o name
  | '-' :: c :: rest => short o (c :: rest)
  | _ => .error (.unexpected (String.ofList argument))

/-- Read the arguments after some options. Nothing may follow two hyphens alone. -/
def parseFrom (o : Options) : List (List Char) → Except UsageError Request
  | [] => .ok (.watch o)
  | ['-', '-'] :: rest =>
    match rest with
    | [] => .ok (.watch o)
    | argument :: _ => .error (.unexpected (String.ofList argument))
  | argument :: rest => do
    match ← step o argument with
    | .next o => parseFrom o rest
    | .help => .ok .help
    | .awaitInput o =>
      match rest with
      | [] => .error (.missingValue "--input")
      | value :: rest =>
        if isValue value then parseFrom (← o.chooseInput value) rest
        else .error (.missingValue "--input")

/-- What the arguments ask for. -/
def parse (arguments : List String) : Except UsageError Request :=
  parseFrom {} (arguments.map String.toList)

end SocketWatch.CommandLine
