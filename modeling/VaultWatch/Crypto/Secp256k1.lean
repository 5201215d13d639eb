import VaultWatch.Text.Hex

/-!
# The curve secp256k1

The curve `y² = x³ + 7` over the integers modulo `p`, with a generator of prime order `n`. This
module recovers the public key behind a signature and reads public keys in their standard byte
forms. Points are kept in Jacobian coordinates while they are added, so that a multiplication
needs one inverse at its end.
-/

namespace VaultWatch.Secp256k1

/-- The field's modulus. -/
def p : Nat := 0xFFFFFFFFFFFFFFFFFFFFFFFFFFFFFFFFFFFFFFFFFFFFFFFFFFFFFFFEFFFFFC2F

/-- The order of the generator. -/
def n : Nat := 0xFFFFFFFFFFFFFFFFFFFFFFFFFFFFFFFEBAAEDCE6AF48A03BBFD25E8CD0364141

/-! ### Arithmetic modulo a number -/

/-- Computes `base ^ e` modulo `m` by squaring. -/
def powMod (base e m : Nat) : Nat :=
  if h : e = 0 then 1 % m
  else
    have : e / 2 < e := Nat.div_lt_self (Nat.pos_of_ne_zero h) (by decide)
    let half := powMod (base * base % m) (e / 2) m
    if e % 2 = 1 then half * base % m else half
termination_by e

/-- The inverse modulo a prime, as a power. -/
def invMod (a m : Nat) : Nat :=
  powMod a (m - 2) m

/-- Computes `a - b` modulo `m`, for `b` below `m`. -/
def subMod (a b m : Nat) : Nat :=
  (a + (m - b)) % m

/-- A square root modulo `p`, if there is one: `p` is three more than a multiple of four. -/
def sqrt? (a : Nat) : Option Nat :=
  let root := powMod a ((p + 1) / 4) p
  if root * root % p = a % p then some root else none

/-! ### Points -/

/-- An affine point other than the neutral one. -/
structure Point where
  x : Nat
  y : Nat
  deriving DecidableEq, Repr

/-- A point with the common denominator `z`: it stands for `(x / z², y / z³)`, or for the neutral
point when `z` is zero. -/
structure Jacobian where
  x : Nat
  y : Nat
  z : Nat

/-- The neutral point. -/
def Jacobian.zero : Jacobian := ⟨1, 1, 0⟩

/-- The generator. -/
def generator : Point where
  x := 0x79BE667EF9DCBBAC55A06295CE870B07029BFCDB2DCE28D959F2815B16F81798
  y := 0x483ADA7726A3C4655DA4FBFC0E1108A8FD17B448A68554199C47D08FFB10D4B8

/-- The affine coordinates of a point that is not neutral. -/
def Jacobian.affine? (q : Jacobian) : Option Point :=
  if q.z = 0 then none
  else
    let inv := invMod q.z p
    let inv2 := inv * inv % p
    some ⟨q.x * inv2 % p, q.y * inv2 % p * inv % p⟩

/-- A point added to itself. -/
def Jacobian.double (q : Jacobian) : Jacobian :=
  if q.z = 0 ∨ q.y = 0 then .zero
  else
    let y2 := q.y * q.y % p
    let s := 4 * q.x * y2 % p
    let m := 3 * q.x * q.x % p
    let x := subMod (m * m) (2 * s % p) p
    let y := subMod (m * subMod s x p) (8 * y2 * y2 % p) p
    ⟨x, y, 2 * q.y * q.z % p⟩

/-- The sum of two points. -/
def Jacobian.add (a b : Jacobian) : Jacobian :=
  if a.z = 0 then b
  else if b.z = 0 then a
  else
    let az2 := a.z * a.z % p
    let bz2 := b.z * b.z % p
    let u1 := a.x * bz2 % p
    let u2 := b.x * az2 % p
    let s1 := a.y * bz2 % p * b.z % p
    let s2 := b.y * az2 % p * a.z % p
    -- With one abscissa the points are the same or opposite.
    if u1 = u2 then
      if s1 = s2 then a.double else .zero
    else
      let h := subMod u2 u1 p
      let r := subMod s2 s1 p
      let h2 := h * h % p
      let h3 := h2 * h % p
      let v := u1 * h2 % p
      let x := subMod (r * r) ((h3 + 2 * v) % p) p
      let y := subMod (r * subMod v x p) (s1 * h3 % p) p
      ⟨x, y, a.z * b.z % p * h % p⟩

/-- An affine point with denominator one. -/
def Point.jacobian (q : Point) : Jacobian := ⟨q.x, q.y, 1⟩

/-- The `k`-fold sum of a point, by doubling. -/
def Jacobian.mul (k : Nat) (q : Jacobian) : Jacobian :=
  if h : k = 0 then .zero
  else
    have : k / 2 < k := Nat.div_lt_self (Nat.pos_of_ne_zero h) (by decide)
    let rest := (q.double).mul (k / 2)
    if k % 2 = 1 then rest.add q else rest
termination_by k

/-- The point with abscissa `x` whose ordinate is odd or even as asked, if `x` is one. -/
def lift? (x : Nat) (odd : Bool) : Option Point :=
  if x < p then
    match sqrt? ((x * x % p * x + 7) % p) with
    | some y =>
      if (y % 2 = 1) = odd then some ⟨x, y⟩
      else if y = 0 then none
      else some ⟨x, p - y⟩
    | none => none
  else none

/-- A point lies on the curve, with coordinates in range. -/
def Point.onCurve (q : Point) : Bool :=
  q.x < p && q.y < p && q.y * q.y % p == (q.x * q.x % p * q.x + 7) % p

/-! ### Signatures -/

/-- A signature on a 32-byte digest, with what `r` leaves open about its random point: the parity of
the ordinate, and whether the abscissa is `r + n` and not `r` itself. -/
structure Signature where
  r : Nat
  s : Nat
  odd : Bool
  reduced : Bool

/-- The same signature with `s` in the lower half of its range: negating `s` turns the random point
over. -/
def Signature.lowS (sig : Signature) : Signature :=
  if sig.s > n / 2 then { sig with s := n - sig.s, odd := !sig.odd } else sig

/-- The abscissa of the random point. -/
def Signature.abscissa (sig : Signature) : Nat :=
  if sig.reduced then sig.r + n else sig.r

/-- The public key under which the signature is good for the digest. None if `r` or `s` is out of
range, if the random point has no such abscissa, or if the key would be the neutral point. -/
def Signature.recover? (sig : Signature) (digest : Nat) : Option Point :=
  if sig.r = 0 ∨ n ≤ sig.r ∨ sig.s = 0 ∨ n ≤ sig.s then none
  else
    let sig := sig.lowS
    match lift? sig.abscissa sig.odd with
    | none => none
    | some random =>
      -- The key is `(s * random - digest * generator) / r`.
      let inv := invMod sig.r n
      let u1 := (n - inv * (digest % n) % n) % n
      let u2 := inv * sig.s % n
      ((generator.jacobian.mul u1).add (random.jacobian.mul u2)).affine?

/-! ### Public keys as bytes -/

/-- Bytes as a number, highest first. -/
def bigEndian (bytes : Bytes) : Nat :=
  bytes.foldl (fun acc b => 256 * acc + b.toNat) 0

/-- The 32 bytes of a number, highest first. -/
def bytes32 (k : Nat) : Bytes :=
  (List.range 32).map fun i => UInt8.ofNat (k >>> (8 * (31 - i)))

/-- The 64 bytes of a point's coordinates. -/
def Point.bytes (q : Point) : Bytes :=
  bytes32 q.x ++ bytes32 q.y

/-- Reads a public key: `04` with both coordinates, `02` or `03` with the abscissa and the parity of
the ordinate, `05` with the abscissa of the point whose ordinate is even. The neutral point is no
public key. -/
def publicKey? (bytes : Bytes) : Option Point :=
  match bytes with
  | [] => none
  | tag :: rest =>
    if tag = 0x04 ∧ rest.length = 64 then
      let q : Point := ⟨bigEndian (rest.take 32), bigEndian (rest.drop 32)⟩
      if q.onCurve then some q else none
    else if rest.length = 32 then
      if tag = 0x02 ∨ tag = 0x05 then lift? (bigEndian rest) false
      else if tag = 0x03 then lift? (bigEndian rest) true
      else none
    else none

end VaultWatch.Secp256k1
