import SocketWatch.Text.Numeral
/-!
# Floating-point numbers

Numbers in 64-bit floating point, held as the whole number and the power of two that make them
up. Settings may be written as such numbers, so they are read from decimal text, rounded to whole
numbers, and shown; there is no arithmetic on them. All of it is exact arithmetic on natural
numbers.

* Reading takes the nearest number, of two equally near ones the one with the even significand.
* Showing writes the fewest digits that read back, of two such decimals the nearer one and of two
  equally near ones the larger, and never an exponent.
-/

namespace SocketWatch

/-- A number in 64-bit floating point. -/
inductive Binary64 where
  /-- The result of an undefined operation. -/
  | nan
  /-- An infinite number. -/
  | infinite (negative : Bool)
  /-- The number `significand * 2 ^ exponent` or its negative. The significand is below `2 ^ 53`,
  and at least `2 ^ 52` unless the exponent is the least one. -/
  | finite (negative : Bool) (significand : Nat) (exponent : Int)
deriving DecidableEq, Repr, Inhabited

namespace Binary64

/-- A power of ten. -/
def tenTo (n : Nat) : Nat := Nat.pow 10 n

/-- The least significand, unless the exponent is the least one. -/
def leastSignificand : Nat := Word.count 52

/-- The least exponent. -/
def minExponent : Int := -1074

/-- The greatest exponent. -/
def maxExponent : Int := 971

/-! ### Rounding -/

/-- The whole number nearest to a quotient, the even one of two. -/
def roundHalfEven (num den : Nat) : Nat :=
  let q := num / den
  let r := num % den
  if 2 * r < den then q else if den < 2 * r then q + 1 else q + q % 2

/-- A quotient divided by a power of two, as a quotient. -/
def scaleDown (num den : Nat) (e : Int) : Nat × Nat :=
  (num <<< (-e).toNat, den <<< e.toNat)

/-- The number nearest to a quotient or to its negative. The exponent is that of a quotient
between `2 ^ 52` and `2 ^ 53`, which the difference of the logarithms gives up to one. -/
def nearest (negative : Bool) (num den : Nat) : Binary64 :=
  if num = 0 then .finite negative 0 minExponent
  else
    let guess : Int := (num.log2 : Int) - den.log2 - 52
    let (n, d) := scaleDown num den guess
    let e := max minExponent (if n / d < leastSignificand then guess - 1 else guess)
    let (n, d) := scaleDown num den e
    let m := roundHalfEven n d
    let (m, e) := if m = 2 * leastSignificand then (leastSignificand, e + 1) else (m, e)
    if maxExponent < e then .infinite negative else .finite negative m e

/-- The number nearest to `n * 10 ^ p`. Powers that are out of reach are not computed. -/
def ofDecimal (negative : Bool) (n : Nat) (p : Int) : Binary64 :=
  let size : Int := (Nat.toDigits 10 n).length + p
  if n = 0 || size < -330 then .finite negative 0 minExponent
  else if 310 < size then .infinite negative
  else nearest negative (n * tenTo p.toNat) (tenTo (-p).toNat)

/-! ### Reading -/

/-- The number of digits with an optional point and an optional exponent. -/
def magnitude? (negative : Bool) (cs : List Char) : Option Binary64 := do
  let whole := cs.takeWhile Char.isDigit
  let rest := cs.dropWhile Char.isDigit
  let (fraction, rest) :=
    if rest.head? = some '.' then
      ((rest.drop 1).takeWhile Char.isDigit, (rest.drop 1).dropWhile Char.isDigit)
    else ([], rest)
  let n ← Numeral.digits? 10 (whole ++ fraction)
  let e ← match rest with
    | [] => some 0
    | c :: cs => if c = 'e' || c = 'E' then Numeral.int? 10 cs else none
  some (ofDecimal negative n (e - fraction.length))

/-- The number without its sign: a decimal, or one of the words for what is not finite. -/
def unsigned? (negative : Bool) (cs : List Char) : Option Binary64 :=
  let word := cs.map Char.toLower
  if word = "inf".toList || word = "infinity".toList then some (.infinite negative)
  else if word = "nan".toList then some .nan
  else magnitude? negative cs

/-- The number a text denotes. -/
def parse? : List Char → Option Binary64
  | '-' :: cs => unsigned? true cs
  | '+' :: cs => unsigned? false cs
  | cs => unsigned? false cs

/-! ### Whole numbers -/

/-- Whether the number is zero. -/
def isZero : Binary64 → Bool
  | .finite _ 0 _ => true
  | _ => false

/-- The nearest whole number, of two the one further from zero, held within 64 unsigned bits;
what is no number counts as zero. -/
def toWord : Binary64 → Nat
  | .nan => 0
  | .infinite negative => if negative then 0 else Word.count 64 - 1
  | .finite true _ _ => 0
  | .finite false m e =>
    let (num, den) := scaleDown m 1 (-e)
    min ((2 * num + den) / (2 * den)) (Word.count 64 - 1)

/-! ### Showing -/

/-- The decimals that round to a number lie around it: `below` and `above` are the ends of that
interval and `middle` is the number, all in units of `1 / unit`. -/
structure Interval where
  /-- The lower end. -/
  below : Nat
  /-- The number. -/
  middle : Nat
  /-- The upper end. -/
  above : Nat
  /-- How many units one is. -/
  unit : Nat
  /-- Whether the ends round to the number as well. -/
  closed : Bool

/-- The interval of a significand and an exponent. It reaches half way to the neighbours, of which
the lower one is nearer where the significand is the least of its exponent. -/
def interval (m : Nat) (e : Int) : Interval :=
  let (scale, unit) := scaleDown 1 1 (2 - e)
  let down := if m = leastSignificand && minExponent < e then 1 else 2
  { below := (4 * m - down) * scale, middle := 4 * m * scale, above := (4 * m + 2) * scale
    unit, closed := m % 2 = 0 }

/-- Whether `n * 10 ^ p` lies in the interval. -/
def Interval.contains (i : Interval) (n : Nat) (p : Int) : Bool :=
  let x := n * tenTo p.toNat * i.unit
  let scale := tenTo (-p).toNat
  let low := i.below * scale
  let high := i.above * scale
  (low < x && x < high) || (i.closed && (x = low || x = high))

/-- The multiple of `10 ^ p` in the interval that is nearest to the number. -/
def Interval.onGrid? (i : Interval) (p : Int) : Option Nat :=
  let num := i.middle * tenTo (-p).toNat
  let den := i.unit * tenTo p.toNat
  let low := num / den
  match i.contains low p, i.contains (low + 1) p with
  | true, true => some (if 2 * (num % den) < den then low else low + 1)
  | true, false => some low
  | false, true => some (low + 1)
  | false, false => none

/-- The number of digits in front of the point, less the zeros behind it where there are none. -/
def Interval.magnitude (i : Interval) : Int :=
  ((Nat.toDigits 10 (i.middle * tenTo 340 / i.unit)).length : Int) - 340

/-- The shortest decimal in the interval, as digits and a power of ten. Seventeen digits always
suffice. -/
def Interval.shortest (i : Interval) : Nat × Int :=
  let found := (List.range 17).findSome? fun k ↦
    let p := i.magnitude - ((k : Nat) + 1 : Int)
    (i.onGrid? p).map fun n ↦ (n, p)
  found.getD (0, 0)

/-- The text of `n * 10 ^ p`, without an exponent. -/
def positional (n : Nat) (p : Int) : List Char :=
  let digits := Nat.toDigits 10 n
  if 0 ≤ p then digits ++ List.replicate p.toNat '0'
  else
    let places := (-p).toNat
    let padded := List.replicate (places + 1 - digits.length) '0' ++ digits
    let front := padded.length - places
    let fraction := ((padded.drop front).reverse.dropWhile (· = '0')).reverse
    padded.take front ++ if fraction.isEmpty then [] else '.' :: fraction

/-- The number as text. -/
def text : Binary64 → String
  | .nan => "NaN"
  | .infinite negative => if negative then "-inf" else "inf"
  | .finite negative m e =>
    let (n, p) := if m = 0 then (0, 0) else (interval m e).shortest
    String.ofList ((if negative then ['-'] else []) ++ positional n p)

end Binary64

end SocketWatch
