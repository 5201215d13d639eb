/-!
# Doubles

The positive numbers with a mantissa of 53 bits, as they are kept by those who read the counters.
`Double.nearest` rounds a fraction to the nearest of them, a half to the even neighbour. Sizes are
far from both ends of the exponent range, which is therefore left out.
-/

namespace VaultWatch

/-- Zero, or a mantissa between `2 ^ 52` and `2 ^ 53` times a power of two. -/
structure Double where
  mantissa : Nat
  exponent : Int
  deriving DecidableEq, Repr

namespace Double

/-- The least mantissa of 53 bits. -/
def leastMantissa : Nat := 1 <<< 52

/-- Zero. -/
def zero : Double := ⟨0, 0⟩

/-- A fraction times a power of two, as a fraction. -/
def shifted (num den : Nat) (exponent : Int) : Nat × Nat :=
  match exponent with
  | .ofNat k => (num <<< k, den)
  | .negSucc k => (num, den <<< (k + 1))

/-- The value of a double as a fraction. -/
def fraction (x : Double) : Nat × Nat := shifted x.mantissa 1 x.exponent

/-- A quotient rounded to the nearest whole number, a half to the even one. -/
def roundedQuotient (num den : Nat) : Nat :=
  let q := num / den
  let twice := 2 * (num % den)
  if twice < den then q
  else if den < twice then q + 1
  else q + q % 2

/-- The double nearest to a fraction with a positive denominator. -/
def nearest (num den : Nat) : Double :=
  if num = 0 then zero
  else
    let guess : Int := Int.ofNat (Nat.log2 num) - Int.ofNat (Nat.log2 den) - 52
    -- The guess is the right exponent or one too large.
    let scaled := shifted num den (-guess)
    let exponent := if scaled.1 < leastMantissa * scaled.2 then guess - 1 else guess
    let (a, b) := shifted num den (-exponent)
    let mantissa := roundedQuotient a b
    -- Rounding up may have added a bit.
    if mantissa = 2 * leastMantissa then ⟨leastMantissa, exponent + 1⟩ else ⟨mantissa, exponent⟩

/-- The double nearest to a natural number. -/
def ofNat (k : Nat) : Double := nearest k 1

/-- The sum of two doubles, rounded. -/
def add (x y : Double) : Double :=
  let (a, b) := x.fraction
  let (c, d) := y.fraction
  nearest (a * d + c * b) (b * d)

end Double

end VaultWatch
