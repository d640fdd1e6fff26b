import SocketWatch.Settings.Yaml.Cursor
import SocketWatch.Text.Numeral
/-!
# Quoted scalars

A scalar in single quotes holds every character as it is, except that a quote inside is written
twice. One in double quotes writes special characters as a backslash and what stands for them. In
both, line ends are folded; in double quotes a backslash in front of a line end keeps it from
counting.
-/

namespace SocketWatch.Yaml

/-! ### Escape sequences -/

/-- The character an escape letter stands for. -/
def escaped? : Char → Option Char
  | '0' => some '\x00'
  | 'a' => some '\x07'
  | 'b' => some '\x08'
  | 't' => some '\t'
  | '\t' => some '\t'
  | 'n' => some '\n'
  | 'v' => some '\x0b'
  | 'f' => some '\x0c'
  | 'r' => some '\r'
  | 'e' => some '\x1b'
  | ' ' => some ' '
  | '"' => some '"'
  | '/' => some '/'
  | '\\' => some '\\'
  | 'N' => some '\u0085'
  | '_' => some '\u00a0'
  | 'L' => some '\u2028'
  | 'P' => some '\u2029'
  | _ => none

/-- The character with a number of so many hexadecimal digits. -/
def numbered? (count : Nat) (cs : List Char) : Option Char := do
  let digits := cs.take count
  let n ← Numeral.digits? 16 digits
  if digits.length = count && n.isValidChar then some (Char.ofNat n) else none

/-- The character an escape sequence stands for, and the length of what is behind its
backslash. -/
def escape? : List Char → Option (Char × Nat)
  | [] => none
  | 'x' :: cs => (numbered? 2 cs).map (·, 3)
  | 'u' :: cs => (numbered? 4 cs).map (·, 5)
  | 'U' :: cs => (numbered? 8 cs).map (·, 9)
  | c :: _ => (escaped? c).map (·, 1)

/-! ### Scalars -/

/-- A line end in front of which a backslash stood. -/
def Fold.silentBreak : Fold := { broken := true, silent := true }

/-- Whether content may stand at a place inside quotes, in a block whose content stands at column
`indent` or behind. The quote that ends the scalar may also stand right behind a line end that
does not count. -/
def mayFollow (quote : Char) (indent : Int) (f : Fold) (c : Cursor) : Bool :=
  (c.rest.head? = some quote && f = .silentBreak && c.column = 0)
    || (indent ≤ c.column && !c.atDocumentMark)

/-- The characters of a quoted scalar behind the opening quote, and what follows the closing one.
`skip` characters in front belong to an escape sequence, and `f` is what stands since the last
word. -/
def quotedFrom (quote : Char) (indent : Int) (skip : Nat) (f : Fold) (p : Place) :
    List Char → Option (List Char × Cursor)
  | [] => none
  | c :: cs =>
    let content (d : Char) (skip : Nat) : Option (List Char × Cursor) :=
      (quotedFrom quote indent skip {} p.mark cs).map fun (text, rest) ↦
        (f.text ++ d :: text, rest)
    match skip with
    | skip + 1 => quotedFrom quote indent skip f p.mark cs
    | 0 =>
      if c = '\n' then quotedFrom quote indent 0 (f.newline f.broken) p.newline cs
      else if isBlank c then
        if c = '\t' && f.broken && p.column < indent then none
        else quotedFrom quote indent 0 (f.space c) p.blank cs
      else if !mayFollow quote indent f { p with rest := c :: cs } then none
      else if c = '\'' && quote = '\'' && cs.head? = some '\'' then content '\'' 1
      else if c = quote then some (f.text, { p.mark with rest := cs })
      else if c = '\\' && quote = '"' then
        match cs with
        | '\n' :: cs =>
          (quotedFrom quote indent 0 .silentBreak p.mark.newline cs).map fun (text, rest) ↦
            (f.text ++ text, rest)
        | _ => do
          let (d, length) ← escape? cs
          content d length
      else content c 0

/-- Read a quoted scalar in a block whose content stands at column `indent` or behind. -/
def Cursor.quoted? (c : Cursor) (indent : Int) : Option (String × Cursor) :=
  match c.rest with
  | [] => none
  | quote :: cs =>
    (quotedFrom quote indent 0 {} c.mark cs).map fun (text, rest) ↦ (String.ofList text, rest)

/-- Whether something may stand behind a quoted scalar: in a flow collection its marks, and a colon
that makes the scalar a key, which outside of one has to stand on the line the key began on. -/
def mayEndQuoted (flow : Bool) (start c : Cursor) : Bool :=
  match c.rest with
  | [] => true
  | '\n' :: _ => true
  | ':' :: _ => flow || start.line = c.line
  | d :: _ => flow && (d = ',' || d = ']' || d = '\x7d')

end SocketWatch.Yaml
