/-!
# White space

The characters with the Unicode property `White_Space`, and the two uses made of them: trimming
a text and splitting it into words.
-/

namespace SocketWatch.Text

/-- Whether a character has the property `White_Space`. -/
def isBlank (c : Char) : Bool :=
  let n := c.toNat
  (9 ≤ n && n ≤ 13) || n = 0x20 || n = 0x85 || n = 0xA0 || n = 0x1680
    || (0x2000 ≤ n && n ≤ 0x200A) || n = 0x2028 || n = 0x2029 || n = 0x202F || n = 0x205F
    || n = 0x3000

/-- Drop the blanks in front. -/
def trimStart (cs : List Char) : List Char := cs.dropWhile isBlank

/-- Drop the blanks at both ends. -/
def trim (cs : List Char) : List Char := ((trimStart cs).reverse.dropWhile isBlank).reverse

/-- Split into words, `word` being the reversed beginning of the current one. -/
def wordsFrom (word : List Char) : List Char → List (List Char)
  | [] => if word.isEmpty then [] else [word.reverse]
  | c :: cs =>
    if isBlank c then (if word.isEmpty then [] else [word.reverse]) ++ wordsFrom [] cs
    else wordsFrom (c :: word) cs

/-- The words of a text: its maximal runs without blanks. -/
def words (cs : List Char) : List (List Char) := wordsFrom [] cs

end SocketWatch.Text
