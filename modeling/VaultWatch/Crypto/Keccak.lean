import VaultWatch.Text.Hex

/-!
# Keccak-256

The sponge over the permutation Keccak-f[1600] with a rate of 136 bytes, the padding that starts
with `01`, and 32 bytes of output. A state is 25 lanes of 64 bits; the lane in column `x` and row
`y` stands at `x + 5 * y`.
-/

namespace VaultWatch.Keccak

/-- The 25 lanes of a state. -/
abbrev State := Vector UInt64 25

/-- The number of bytes that one block puts into the state. -/
def rate : Nat := 136

/-! ### The permutation -/

/-- The constant of each of the 24 rounds. -/
def roundConstants : List UInt64 :=
  [0x0000000000000001, 0x0000000000008082, 0x800000000000808A, 0x8000000080008000,
   0x000000000000808B, 0x0000000080000001, 0x8000000080008081, 0x8000000000008009,
   0x000000000000008A, 0x0000000000000088, 0x0000000080008009, 0x000000008000000A,
   0x000000008000808B, 0x800000000000008B, 0x8000000000008089, 0x8000000000008003,
   0x8000000000008002, 0x8000000000000080, 0x000000000000800A, 0x800000008000000A,
   0x8000000080008081, 0x8000000000008080, 0x0000000080000001, 0x8000000080008008]

/-- By how many bits the lane at each place is turned. -/
def turns : Vector UInt64 25 :=
  #v[0, 1, 62, 28, 27, 36, 44, 6, 55, 20, 3, 10, 43, 25, 39, 41, 45, 15, 21, 8, 18, 2, 61, 56, 14]

/-- A lane turned to the left. -/
def rotl (lane amount : UInt64) : UInt64 :=
  -- A shift by 64 would count as a shift by nothing.
  if amount == 0 then lane else (lane <<< amount) ||| (lane >>> (64 - amount))

/-- The parity of a column. -/
def columnParity (s : State) (x : Fin 5) : UInt64 :=
  s[x.val] ^^^ s[x.val + 5] ^^^ s[x.val + 10] ^^^ s[x.val + 15] ^^^ s[x.val + 20]

/-- Each lane takes in the parities of the two columns beside its own. -/
def theta (s : State) : State :=
  let parity : Vector UInt64 5 := Vector.ofFn (columnParity s)
  Vector.ofFn fun i : Fin 25 =>
    s[i.val] ^^^ parity[(i.val + 4) % 5] ^^^ rotl parity[(i.val + 1) % 5] 1

/-- Each lane is turned and moved: column `y` and row `2 * x + 3 * y` take the lane of column `x`
and row `y`. -/
def rhoPi (s : State) : State :=
  Vector.ofFn fun i : Fin 25 =>
    let x := i.val % 5
    let y := i.val / 5
    let source := (x + 3 * y) % 5 + 5 * x
    have : source < 25 := by omega
    rotl s[source] turns[source]

/-- Each lane is changed by the next two of its row. -/
def chi (s : State) : State :=
  Vector.ofFn fun i : Fin 25 =>
    let row := i.val / 5 * 5
    have : row ≤ 20 := by omega
    s[i.val] ^^^ (~~~ s[row + (i.val + 1) % 5] &&& s[row + (i.val + 2) % 5])

/-- One round. -/
def round (s : State) (constant : UInt64) : State :=
  let t := chi (rhoPi (theta s))
  t.set 0 (t[0] ^^^ constant)

/-- The permutation: 24 rounds. -/
def permute (s : State) : State :=
  roundConstants.foldl round s

/-! ### The sponge -/

/-- Eight bytes as a lane, lowest byte first. -/
def lane (bytes : Bytes) : UInt64 :=
  bytes.foldr (fun b acc => (acc <<< 8) ||| b.toUInt64) 0

/-- The eight bytes of a lane, lowest first. -/
def laneBytes (l : UInt64) : Bytes :=
  (List.range 8).map fun i => (l >>> (8 * i).toUInt64).toUInt8

/-- The message with its padding: `01`, zeros, and the top bit of the last byte of a block. -/
def pad (message : Bytes) : Bytes :=
  let missing := rate - message.length % rate
  -- Both marks fall into the one byte that is left.
  if missing = 1 then message ++ [0x81]
  else message ++ [0x01] ++ List.replicate (missing - 2) 0 ++ [0x80]

/-- A block goes into the first 17 lanes, and the state is permuted. -/
def absorbBlock (s : State) (block : Bytes) : State :=
  permute <| Vector.ofFn fun i : Fin 25 =>
    s[i.val] ^^^ lane ((block.drop (8 * i.val)).take 8)

/-- Absorbs the first `count` blocks of a padded message. -/
def absorb (s : State) : (count : Nat) → Bytes → State
  | 0, _ => s
  | count + 1, bytes => absorb (absorbBlock s (bytes.take rate)) count (bytes.drop rate)

/-- The 32-byte digest of a message. -/
def digest (message : Bytes) : Bytes :=
  let padded := pad message
  let s := absorb (Vector.replicate 25 0) (padded.length / rate) padded
  (s.toList.take 4).flatMap laneBytes

end VaultWatch.Keccak
