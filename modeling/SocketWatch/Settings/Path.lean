import SocketWatch.Text.Numeral
/-!
# Paths to settings

A setting deep inside others is addressed by a path: a name, and behind it further names after dots
and positions in lists between brackets, as in `network.protocol_config[0].key`. Any other text is
a name as a whole, so every text addresses something.
-/

namespace SocketWatch.Setting

/-- A step of a path. -/
inductive Step where
  /-- To the value under a name. -/
  | name (name : String)
  /-- To the item at a position, counted from the end where it is negative. -/
  | item (position : Int)
deriving DecidableEq, Repr, Inhabited

namespace Step

/-- Whether a character may occur in a name inside a path. -/
def isNameChar (c : Char) : Bool := c.isAlphanum || c = ' ' || c = '_' || c = '-'

/-- Whether a character may stand around a position. -/
def isBlank (c : Char) : Bool := c = ' ' || c = '\t'

/-- The position that digits denote, with a minus sign in front or without one. -/
def position? (cs : List Char) : Option Int :=
  let cs := ((cs.dropWhile isBlank).reverse.dropWhile isBlank).reverse
  if cs.head? = some '+' then none else Numeral.int64? 10 cs

/-- The steps behind the first name of a path. -/
def listFrom? : List Char → Option (List Step)
  | [] => some []
  | '.' :: cs =>
    let name := cs.takeWhile isNameChar
    if name.isEmpty then none
    else (listFrom? (cs.drop name.length)).map (.name (String.ofList name) :: ·)
  | '[' :: cs => do
    let inside := cs.takeWhile (· ≠ ']')
    let position ← position? inside
    if inside.length < cs.length then
      (listFrom? (cs.drop (inside.length + 1))).map (.item position :: ·)
    else none
  | _ => none
termination_by cs => cs.length
decreasing_by all_goals simp only [List.length_cons, List.length_drop]; omega

end Step

/-- The steps of a path. -/
def path? (cs : List Char) : Option (List Step) :=
  let name := cs.takeWhile Step.isNameChar
  if name.isEmpty then none
  else (Step.listFrom? (cs.drop name.length)).map (.name (String.ofList name) :: ·)

/-- The steps that a text stands for; one that is no path is a name. -/
def path (s : String) : List Step := (path? s.toList).getD [.name s]

end SocketWatch.Setting
