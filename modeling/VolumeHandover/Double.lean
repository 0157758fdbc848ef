set_option autoImplicit false

/-! # Doubles

A double has a sign, a significand below `2^53` and a binary exponent. `nearest n d` is the
double nearest to the fraction `n / d`; of two that are equally near it is the one with the
even significand. Sums, products and quotients are rounded in that way. The exponent is not
bounded above; a double that is too large to be stored is told by `isFinite`.

The significand is at least `2^52`, unless the exponent has its least value `-1074`.
-/

namespace VolumeHandover

/-- The number `significand · 2 ^ exponent`, with its sign. -/
structure Double where
  negative : Bool := false
  significand : Nat
  exponent : Int
deriving DecidableEq, Inhabited, Repr

namespace Double

/-! ## Rounding -/

/-- The fraction `n · base ^ e` as numerator and denominator. -/
def scaled (n base : Nat) (e : Int) : Nat × Nat :=
  if 0 ≤ e then (n * Nat.pow base e.toNat, 1) else (n, Nat.pow base (-e).toNat)

def fractionLe (a b : Nat × Nat) : Bool := a.1 * b.2 ≤ b.1 * a.2

/-- The quotient `n / d` rounded to the nearest integer, and to the even one of two. -/
def nearestQuotient (n d : Nat) : Nat :=
  let below := n / d
  let twice := 2 * (n % d)
  if twice < d || (twice = d && below % 2 = 0) then below else below + 1

def leastExponent : Int := -1074

/-- The exponent of the last place of the doubles around the positive fraction `n / d`. -/
def lastPlace (n d : Nat) : Int :=
  let e := Int.ofNat n.log2 - Int.ofNat d.log2 - 52
  let full := scaled (Nat.pow 2 52) 2 e
  max leastExponent (if fractionLe full (n, d) then e else e - 1)

/-- The double nearest to the fraction `n / d`. -/
def nearest (n d : Nat) : Double :=
  if n = 0 then ⟨false, 0, leastExponent⟩
  else
    let e := lastPlace n d
    let unit := scaled 1 2 e
    let m := nearestQuotient (n * unit.2) (d * unit.1)
    if m = Nat.pow 2 53 then ⟨false, Nat.pow 2 52, e + 1⟩ else ⟨false, m, e⟩

def ofNat (n : Nat) : Double := nearest n 1

/-! ## Arithmetic on sizes -/

def size (x : Double) : Nat × Nat := scaled x.significand 2 x.exponent

/-- The sum of the sizes. -/
def add (x y : Double) : Double :=
  nearest (x.size.1 * y.size.2 + y.size.1 * x.size.2) (x.size.2 * y.size.2)

/-- The product of the sizes. -/
def mul (x y : Double) : Double := nearest (x.size.1 * y.size.1) (x.size.2 * y.size.2)

/-- The quotient of the sizes; the second one is not zero. -/
def div (x y : Double) : Double := nearest (x.size.1 * y.size.2) (x.size.2 * y.size.1)

def le (x y : Double) : Bool := fractionLe x.size y.size

/-- The size without its fraction. -/
def floor (x : Double) : Nat := x.size.1 / x.size.2

def isZero (x : Double) : Bool := x.significand = 0

/-- Whether a double is not too large to be stored. -/
def isFinite (x : Double) : Bool := x.exponent ≤ 971

def withSign (x : Double) (negative : Bool) : Double := { x with negative }

/-! ## Decimals -/

def powerOfTen (e : Nat) : Double := ofNat (Nat.pow 10 e)

/-- A size times `10 ^ e`, in steps of at most `10 ^ 308`, each rounded; nothing if it gets too
large. After `fuel` steps down nothing is left of any size. -/
def timesPowerOfTen (fuel : Nat) (x : Double) (e : Int) : Option Double :=
  match fuel with
  | 0 => some (ofNat 0)
  | fuel + 1 =>
      if e.natAbs ≤ 308 then
        let y := if 0 ≤ e then x.mul (powerOfTen e.natAbs) else x.div (powerOfTen e.natAbs)
        if y.isFinite then some y else none
      else if x.isZero then some x
      else if 0 ≤ e then none
      else timesPowerOfTen fuel (x.div (powerOfTen 308)) (e + 308)

/-- The double that a decimal `digits · 10 ^ e` is read as, if it is not too large. The digits
and each step of the scaling are rounded, so it need not be the nearest one. -/
def ofDecimal? (digits : Nat) (e : Int) : Option Double := timesPowerOfTen 5 (ofNat digits) e

end Double

end VolumeHandover
