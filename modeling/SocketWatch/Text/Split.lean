/-!
# Splitting

A list of characters or bytes split at separators. Splitting keeps empty parts, so there is one
part more than there are separators; lines are the parts between line ends, where the last one
counts only if it holds something.
-/

namespace SocketWatch.Text

variable {α : Type} (isSeparator : α → Bool)

/-- The parts between separators, `part` being the reversed beginning of the current one. -/
def splitFrom (part : List α) : List α → List (List α)
  | [] => [part.reverse]
  | c :: cs => if isSeparator c then part.reverse :: splitFrom [] cs else splitFrom (c :: part) cs

/-- The parts of a list between separators. -/
def split (cs : List α) : List (List α) := splitFrom isSeparator [] cs

/-- The lines of a byte list, each ended by a line feed, except that the last may lack it. -/
def lines (bytes : List UInt8) : List (List UInt8) :=
  let parts := split (· = 0x0A) bytes
  if parts.getLast? = some [] then parts.dropLast else parts

end SocketWatch.Text
