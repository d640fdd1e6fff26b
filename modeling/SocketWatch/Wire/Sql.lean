import SocketWatch.Text.Ascii
import SocketWatch.Text.Blank
/-!
# SQL statements

What a statement is about, for grouping: its operation and, where one can be found, the table it
touches. The table is the word behind the marker that goes with the operation.
-/

namespace SocketWatch.Wire.Sql

/-- The words a statement may start with. -/
def openings : List String :=
  ["select", "insert", "update", "delete", "drop", "create", "alter"]

/-- Whether a text starts like a statement. -/
def isStatement (sql : String) : Bool :=
  let text := (Text.trimStart sql.toList).map Char.toLower
  openings.any fun w ↦ w.toList.isPrefixOf text

/-- The word in front of the table, for an operation that has a table. -/
def marker? : String → Option String
  | "select" | "delete" => some "from"
  | "insert" => some "into"
  | "drop" | "create" | "alter" => some "table"
  | "update" => some "update"
  | _ => none

/-- Whether a character is trimmed from the ends of a table. -/
def isTableQuote (c : Char) : Bool := c = '\x60' || c = '(' || c = ';'

/-- A table without what stands around it. -/
def trimTable (word : List Char) : List Char :=
  ((word.dropWhile isTableQuote).reverse.dropWhile isTableQuote).reverse

/-- The word behind the first word that is the marker in any case. -/
def wordAfter? (marker : String) : List (List Char) → Option (List Char)
  | [] => none
  | w :: ws => if w.map Char.toLower = marker.toList then ws.head? else wordAfter? marker ws

/-- The operation of a statement and the table it touches. -/
def contentKey (sql : String) : String :=
  let words := Text.words sql.toList
  match words.head? with
  | none => ""
  | some first =>
    let op := String.ofList (first.map Char.toLower)
    let table := ((marker? op).bind fun m ↦ wordAfter? m words).map trimTable
    match table with
    | some (c :: cs) => op ++ " " ++ String.ofList (c :: cs)
    | _ => op

end SocketWatch.Wire.Sql
