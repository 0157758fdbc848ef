import VolumeHandover.Double

set_option autoImplicit false

/-! # Shortest decimal text of a floating-point number

A finite double is `m · 2^q`. `shortestDigits` finds the decimal number with the fewest digits
that lies among the reals that round to it, and of those the one nearest to it; which of two
that are equally near is taken is up to the format. All comparisons are made exactly, on
natural numbers.

Two ways to write the digits are given: `plainText` writes every number without an exponent
and a whole number without a point, and takes the larger of two decimals that are equally near.
`jsonText` keeps a point or an exponent in every number, changes to an exponent from `10^16` on
and below `10^-5`, and takes the one of two decimals that is even.
-/

namespace VolumeHandover

open Double (scaled fractionLe)

/-- Which of two decimals is taken that are equally near. -/
inductive Tie where
  | even
  | up
deriving DecidableEq, Inhabited, Repr

/-- The significand and the binary exponent of a positive finite double, given its bits. -/
def decodeBits (bits : UInt64) : Nat × Int :=
  let raw := bits.toNat % Nat.pow 2 63
  let fraction := raw % Nat.pow 2 52
  let exponent := raw / Nat.pow 2 52
  if exponent = 0 then (fraction, -1074) else (fraction + Nat.pow 2 52, Int.ofNat exponent - 1075)

/-- The largest `e` with `10 ^ e` at most the fraction `num / den`, which is positive. -/
def decimalExponent (num den : Nat) : Int :=
  if den ≤ num then Int.ofNat (Nat.toDigits 10 (num / den)).length - 1
  else -(Int.ofNat (Nat.toDigits 10 ((den + num - 1) / num - 1)).length)

/-- Of the two multiples of `10 ^ e` next to `value`, the one that rounds to it, the nearer
where both do; `low` and `high` bound what rounds to `value`. -/
def decimalNear (tie : Tie) (value low high : Nat × Nat) (closed : Bool) (e : Int) : Option Nat :=
  let unit := scaled 1 10 e
  let below := value.1 * unit.2 / (value.2 * unit.1)
  let fits (d : Nat) : Bool :=
    let x := (d * unit.1, unit.2)
    if closed then fractionLe low x && fractionLe x high
    else !fractionLe x low && !fractionLe high x
  -- twice the distance from `below` against one unit
  let twice := 2 * (value.1 * unit.2 - below * unit.1 * value.2)
  let nearerBelow := twice < unit.1 * value.2 ||
    (twice = unit.1 * value.2 && tie = .even && below % 2 = 0)
  match fits below, fits (below + 1) with
  | true, true => some (if nearerBelow then below else below + 1)
  | true, false => some below
  | false, true => some (below + 1)
  | false, false => none

/-- The first hit on the grids of `1, 2, …, 17` digits, with its exponent. -/
def firstDecimal (tie : Tie) (value low high : Nat × Nat) (closed : Bool) (top : Int) :
    Nat → Nat × Int
  | 0 => (0, 0)
  | left + 1 =>
      let e := top - Int.ofNat (17 - (left + 1))
      match decimalNear tie value low high closed e with
      | some d => (d, e)
      | none => firstDecimal tie value low high closed top left

/-- Digits `d` and exponent `e` of the shortest decimal `d · 10^e` that rounds to `m · 2^q`. -/
def shortestDigits (tie : Tie) (m : Nat) (q : Int) : Nat × Int :=
  if m = 0 then (0, 0)
  else
    let value := scaled (4 * m) 2 (q - 2)
    let low := scaled (4 * m - (if m = Nat.pow 2 52 && q ≠ -1074 then 1 else 2)) 2 (q - 2)
    let high := scaled (4 * m + 2) 2 (q - 2)
    firstDecimal tie value low high (m % 2 = 0) (decimalExponent value.1 value.2) 17

/-- The digits of a decimal without trailing zeros, and its exponent. -/
def significant (d : Nat) (e : Int) : List Char × Int :=
  let digits := Nat.toDigits 10 d
  let kept := (digits.reverse.dropWhile (· = '0')).reverse
  (kept, e + Int.ofNat (digits.length - kept.length))

/-- Digits with a point after the first `before` of them; zeros fill the gaps. -/
def pointed (digits : List Char) (before : Int) (wholeTail : String) : String :=
  if before ≤ 0 then
    "0." ++ String.ofList (List.replicate (-before).toNat '0' ++ digits)
  else if Int.ofNat digits.length ≤ before then
    String.ofList (digits ++ List.replicate (before - digits.length).toNat '0') ++ wholeTail
  else
    String.ofList (digits.take before.toNat) ++ "." ++ String.ofList (digits.drop before.toNat)

/-- A nonnegative finite double without an exponent, whole numbers without a point. -/
def plainText (x : Float) : String :=
  let (m, q) := decodeBits x.toBits
  if m = 0 then "0"
  else
    let (d, e) := shortestDigits .up m q
    let (digits, e) := significant d e
    pointed digits (Int.ofNat digits.length + e) ""

/-- A finite double as a JSON number that shows it is no integer. -/
def jsonText (x : Double) : String :=
  let sign := if x.negative then "-" else ""
  if x.isZero then sign ++ "0.0"
  else
    let (d, e) := shortestDigits .even x.significand x.exponent
    let (digits, e) := significant d e
    let before := Int.ofNat digits.length + e
    sign ++
      if -5 < before && before ≤ 16 then pointed digits before ".0"
      else
        let head := String.ofList (digits.take 1)
        let tail := digits.drop 1
        head ++ (if tail.isEmpty then "" else "." ++ String.ofList tail) ++ "e"
          ++ (if 0 < before then "+" else "") ++ toString (before - 1)

end VolumeHandover
