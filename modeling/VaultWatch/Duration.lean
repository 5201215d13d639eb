/-!
# Lengths of time

A length of time is a whole number of nanoseconds. The engine's own settings and timers are whole
milliseconds; only error texts show a length of time, in the largest unit of which it is at least
one.
-/

namespace VaultWatch

/-- A length of time in nanoseconds. -/
structure Duration where
  nanos : Nat
  deriving DecidableEq, Repr

namespace Duration

/-- So many milliseconds. -/
def ofMillis (ms : Nat) : Duration := ⟨1000000 * ms⟩

/-- The longest length of time that a timer takes: 2^64 seconds less a nanosecond. -/
def longest : Duration := ⟨UInt64.size * 1000000000 - 1⟩

/-! ### Text -/

/-- The digits of `part`, which is below `10 ^ places`, to that many places and without zeros at the
end. -/
def fractionDigits (part places : Nat) : List Char :=
  let digits := Nat.toDigits 10 part
  let padded := List.replicate (places - digits.length) '0' ++ digits
  (padded.reverse.dropWhile (· == '0')).reverse

/-- An amount in a unit of `10 ^ places`, with its exact fraction. -/
def inUnit (amount places : Nat) (name : String) : String :=
  let whole := toString (amount / Nat.pow 10 places)
  let part := amount % Nat.pow 10 places
  if part = 0 then whole ++ name
  else whole ++ "." ++ String.ofList (fractionDigits part places) ++ name

/-- The text of a length of time. -/
def text (d : Duration) : String :=
  if 1000000000 ≤ d.nanos then inUnit d.nanos 9 "s"
  else if 1000000 ≤ d.nanos then inUnit d.nanos 6 "ms"
  else if 1000 ≤ d.nanos then inUnit d.nanos 3 "µs"
  else inUnit d.nanos 0 "ns"

end Duration

end VaultWatch
