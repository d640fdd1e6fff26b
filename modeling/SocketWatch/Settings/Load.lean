import SocketWatch.Settings.Basic
import SocketWatch.Settings.Yaml.Document
import SocketWatch.Text.Split
/-!
# Loading settings

Settings are laid over one another in two layers: a settings file, if there is one, and above it
the environment. The name of an environment variable is a path in which letters count in either
case and two underscores stand for a dot. The top level of the file takes paths as well.
-/

namespace SocketWatch

namespace Setting

/-! ### The environment -/

/-- The path that the name of an environment variable stands for: two underscores become a
dot. -/
def dotted : List Char → List Char
  | '_' :: '_' :: cs => '.' :: dotted cs
  | c :: cs => smallLetter c :: dotted cs
  | [] => []

/-- The paths whose values are lists in the environment, with commas between the items. -/
def listPaths : List String := ["network.protocol_parser"]

/-- The value that an environment variable gives to a path: a truth value, a number, or else a
list or a text. -/
def ofVariable (path value : String) : Setting :=
  let cs := value.toList
  let word := Ascii.lower value
  if word = "true" then .bool true
  else if word = "false" then .bool false
  else match Numeral.int64? 10 cs with
    | some i => .int i
    | none => match Binary64.parse? cs with
      | some r => .real r
      | none =>
        if listPaths.contains path then
          .list ((Text.split (· = ',') cs).map fun item ↦ .text (String.ofList item))
        else .text value

/-! ### Layers -/

/-- Lay values over a value, each at its path. -/
def layer? (base : Setting) (values : List (String × Setting)) : Option Setting :=
  values.foldlM (fun old (name, v) ↦ putAt? v (path name) old) base

/-- The layer of an environment. -/
def ofEnvironment (environment : List (String × String)) : List (String × Setting) :=
  environment.map fun (name, value) ↦
    let path := String.ofList (dotted name.toList)
    (path, ofVariable path value)

/-- The layer of a settings file: at most one document, which is a table. -/
def ofFile? (text : String) : Option (List (String × Setting)) :=
  match Yaml.documents? text with
  | some [] => some []
  | some [.table members] => some members
  | _ => none

end Setting

/-- The environment variable that names the settings file. -/
def Settings.fileVariable : String := "SOCKETWATCH_CONFIG_FILE"

/-- The settings of a settings file, where there is one, and an environment. -/
def Settings.load? (file : Option String) (environment : List (String × String)) :
    Option Settings := do
  let members ← file.elim (some []) Setting.ofFile?
  let base ← Setting.layer? (.table []) members
  Settings.read? Setting.source (← Setting.layer? base (Setting.ofEnvironment environment))

end SocketWatch
