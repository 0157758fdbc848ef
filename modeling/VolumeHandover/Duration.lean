set_option autoImplicit false

/-! # Durations

A duration is a whole number of nanoseconds. The clock counts milliseconds, so a pause or a
deadline takes the duration rounded up to the next millisecond. No pause is longer than thirty
years; a deadline may be as far ahead as one likes.
-/

namespace VolumeHandover

/-- A span of time in whole nanoseconds. -/
structure Duration where
  nanos : Nat
deriving DecidableEq, Inhabited, Repr

namespace Duration

def ofSeconds (n : Nat) : Duration := ⟨n * 1000000000⟩

def ofMillis (n : Nat) : Duration := ⟨n * 1000000⟩

def seconds (d : Duration) : Nat := d.nanos / 1000000000

def millis (d : Duration) : Nat := d.nanos / 1000000

def micros (d : Duration) : Nat := d.nanos / 1000

/-- The milliseconds of the clock in which the whole duration passes. -/
def ticks (d : Duration) : Nat := (d.nanos + 999999) / 1000000

/-- The longest pause in milliseconds: thirty years of 365 days. -/
def longestPause : Nat := 30 * 365 * 86400 * 1000

/-- The milliseconds for which a pause of the duration lasts. -/
def pauseTicks (d : Duration) : Nat := min d.ticks longestPause

/-- The digits of the fraction `part / 10 ^ places`, after a point and without trailing
zeros; nothing for zero. -/
def fractionText (part places : Nat) : String :=
  if part = 0 then ""
  else
    let digits := Nat.toDigits 10 part
    let padded := List.replicate (places - digits.length) '0' ++ digits
    "." ++ String.ofList (padded.reverse.dropWhile (· = '0')).reverse

/-- The text of a duration in its largest unit of seconds, milliseconds, microseconds and
nanoseconds that is not zero, with as many decimals as it needs. -/
def text (d : Duration) : String :=
  if d.nanos ≥ 1000000000 then
    toString (d.nanos / 1000000000) ++ fractionText (d.nanos % 1000000000) 9 ++ "s"
  else if d.nanos ≥ 1000000 then
    toString (d.nanos / 1000000) ++ fractionText (d.nanos % 1000000) 6 ++ "ms"
  else if d.nanos ≥ 1000 then
    toString (d.nanos / 1000) ++ fractionText (d.nanos % 1000) 3 ++ "µs"
  else toString d.nanos ++ "ns"

end Duration

end VolumeHandover
