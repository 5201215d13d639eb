import VaultWatch.Decimal.Double

/-!
# The shortest decimal of a double

A double is written with the fewest digits that are read back as the same double; of those with
equally many digits, with the ones nearest to it, and of two that are equally near with the greater
ones. It is written in positional notation whatever its size, and a whole number without a point.
-/

namespace VaultWatch.Double

/-- The numbers that are rounded to a double, as `low / den` and `high / den`, with the double
itself as `num / den`. The ends belong to it if its mantissa is even. -/
structure Span where
  low : Nat
  num : Nat
  high : Nat
  den : Nat
  closed : Bool

/-- The span of a double. Below a power of two the neighbours lie closer. -/
def span (x : Double) : Span :=
  let (unit, den) := shifted 1 4 x.exponent
  let num := 4 * x.mantissa * unit
  let below := if x.mantissa = leastMantissa then unit else 2 * unit
  ⟨num - below, num, num + 2 * unit, den, x.mantissa % 2 = 0⟩

/-- A decimal `digits * 10 ^ place` lies in a span. -/
def Span.holds (s : Span) (digits : Nat) (place : Int) : Bool :=
  let (value, low, high) := match place with
    | .ofNat k => (digits * Nat.pow 10 k * s.den, s.low, s.high)
    | .negSucc k => (digits * s.den, s.low * Nat.pow 10 (k + 1), s.high * Nat.pow 10 (k + 1))
  if s.closed then low ≤ value && value ≤ high else low < value && value < high

/-- The whole number of units of a decimal place in a double, and whether the remainder is at least
half a unit. -/
def Span.floorAt (s : Span) (place : Int) : Nat × Bool :=
  let (num, den) := match place with
    | .ofNat k => (s.num, s.den * Nat.pow 10 k)
    | .negSucc k => (s.num * Nat.pow 10 (k + 1), s.den)
  (num / den, den ≤ 2 * (num % den))

/-- The neighbour of a double on the grid of a decimal place that lies in its span; of two, the
nearer. -/
def Span.onGrid? (s : Span) (place : Int) : Option Nat :=
  let (floor, up) := s.floorAt place
  let near := if up then floor + 1 else floor
  let far := if up then floor else floor + 1
  if s.holds near place then some near
  else if s.holds far place then some far
  else none

/-- The number of decimal digits in front of the point. -/
def Span.wholeDigits (s : Span) : Nat := (Nat.toDigits 10 (s.num / s.den)).length

/-- Looks for the coarsest grid that has a decimal in the span, from a place downwards. -/
def Span.search (s : Span) : (fuel : Nat) → Int → Nat × Int
  | 0, place => ((s.floorAt place).1, place)
  | fuel + 1, place =>
    match s.onGrid? place with
    | some digits => (digits, place)
    | none => s.search fuel (place - 1)

/-- The decimal `digits * 10 ^ place` in positional notation. -/
def positional (digits : Nat) : Int → String
  | .ofNat k => toString (digits * Nat.pow 10 k)
  | .negSucc k =>
    let places := k + 1
    let written := Nat.toDigits 10 digits
    let padded := List.replicate (places + 1 - written.length) '0' ++ written
    let whole := padded.take (padded.length - places)
    let part := padded.drop (padded.length - places)
    String.ofList (whole ++ '.' :: part)

/-- The shortest decimal text of a double. Forty places below the leading digit are more than any
double of the sizes at hand needs. -/
def text (x : Double) : String :=
  if x.mantissa = 0 then "0"
  else
    let s := x.span
    let (digits, place) := s.search 40 (Int.ofNat s.wholeDigits)
    positional digits place

end VaultWatch.Double
