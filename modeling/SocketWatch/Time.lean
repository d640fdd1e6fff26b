import SocketWatch.Word
/-!
# Time

Times and spans are counted in nanoseconds. Settings give spans in seconds and milliseconds; a
span that 64 bits cannot hold counts as the longest one they can. Gauges are signed, so a time is
read as a signed word before it goes into one.
-/

namespace SocketWatch.Time

/-- The longest span. -/
def maxSpan : Nat := Word.count 64 - 1

/-- A number of seconds as a span. -/
def ofSeconds (n : Nat) : Nat := min (n * 1000000000) maxSpan

/-- A number of milliseconds as a span. -/
def ofMillis (n : Nat) : Nat := min (n * 1000000) maxSpan

/-- A word read as signed. -/
def signed (n : Nat) : Int := Word.signed 64 n

theorem ofSeconds_le (n : Nat) : ofSeconds n ≤ n * 1000000000 := Nat.min_le_left _ _

theorem ofSeconds_pos {n : Nat} (hn : 0 < n) : 0 < ofSeconds n :=
  Nat.lt_min.2 ⟨Nat.mul_pos hn (by decide), by decide⟩

/-- Below the longest span, cutting off changes nothing. -/
theorem ofSeconds_lt_iff {n t : Nat} (ht : t < Word.count 64) :
    ofSeconds n < t ↔ n * 1000000000 < t := by
  unfold ofSeconds maxSpan
  omega

/-- Below the sign bit, reading as signed changes nothing. -/
theorem signed_of_lt {n : Nat} (h : n < Word.count 63) : signed n = n := Word.signed_of_lt h

end SocketWatch.Time
