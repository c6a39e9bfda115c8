import ChainScript.Data.Octets

/-! The Keccak digest of 256 bits: a sponge over 25 lanes of 64 bits with a rate of 136 bytes, padded with a
one bit, zeros and a last one bit. -/

namespace ChainScript.Keccak

/-- The lane in column `x` and row `y` stands at `x + 5 * y`. -/
abbrev State := Vector UInt64 25

def roundConstants : List UInt64 :=
  [0x0000000000000001, 0x0000000000008082, 0x800000000000808A, 0x8000000080008000,
    0x000000000000808B, 0x0000000080000001, 0x8000000080008081, 0x8000000000008009,
    0x000000000000008A, 0x0000000000000088, 0x0000000080008009, 0x000000008000000A,
    0x000000008000808B, 0x800000000000008B, 0x8000000000008089, 0x8000000000008003,
    0x8000000000008002, 0x8000000000000080, 0x000000000000800A, 0x800000008000000A,
    0x8000000080008081, 0x8000000000008080, 0x0000000080000001, 0x8000000080008008]

def rotations : Vector UInt64 25 :=
  #v[0, 1, 62, 28, 27,
    36, 44, 6, 55, 20,
    3, 10, 43, 25, 39,
    41, 45, 15, 21, 8,
    18, 2, 61, 56, 14]

def rotateLeft (lane count : UInt64) : UInt64 :=
  if count = 0 then lane else (lane <<< count) ||| (lane >>> (64 - count))

def lane (state : State) (column row : Nat) : UInt64 :=
  state[column % 5 + 5 * (row % 5)]

/-- The parity of a column. -/
def parity (state : State) (column : Nat) : UInt64 :=
  lane state column 0 ^^^ lane state column 1 ^^^ lane state column 2 ^^^ lane state column 3 ^^^
    lane state column 4

/-- Every lane takes in the parities of the columns on either side. -/
def mixColumns (state : State) : State :=
  let parities : Vector UInt64 5 := Vector.ofFn fun column => parity state column
  Vector.ofFn fun place =>
    state[place] ^^^ parities[(place.val + 4) % 5] ^^^ rotateLeft parities[(place.val + 1) % 5] 1

/-- Every lane is rotated and moved: the lane at `(x, y)` goes to column `y` and row `2 * x + 3 * y`. -/
def scatter (state : State) : State :=
  let rotated : State := Vector.ofFn fun place => rotateLeft state[place] rotations[place]
  Vector.ofFn fun place => lane rotated (place.val % 5 + 3 * (place.val / 5)) (place.val % 5)

/-- The rows are combined without linearity, and the round constant enters the first lane. -/
def combineRows (state : State) (constant : UInt64) : State :=
  Vector.ofFn fun place =>
    let combined := state[place] ^^^
      (~~~lane state (place.val % 5 + 1) (place.val / 5) &&& lane state (place.val % 5 + 2) (place.val / 5))
    if place.val = 0 then combined ^^^ constant else combined

def permute (state : State) : State :=
  roundConstants.foldl (fun state constant => combineRows (scatter (mixColumns state)) constant) state

/-- The bytes with the padding that fills the last block. -/
def padded (bytes : Bytes) : Bytes :=
  let missing := 136 - bytes.length % 136
  if missing = 1 then bytes ++ [0x81]
  else bytes ++ 0x01 :: List.replicate (missing - 2) 0 ++ [0x80]

/-- The lane that eight bytes hold, the lowest first. -/
def laneOf (bytes : Bytes) : UInt64 :=
  bytes.foldr (fun byte value => value <<< 8 ||| byte.toUInt64) 0

def absorb (state : State) (block : Bytes) : State :=
  permute (Vector.ofFn fun place =>
    if place.val < 17 then state[place] ^^^ laneOf ((block.drop (8 * place.val)).take 8) else state[place])

/-- Absorbs `count` blocks of 136 bytes. -/
def absorbBlocks : (count : Nat) → State → Bytes → State
  | 0, state, _ => state
  | count + 1, state, bytes => absorbBlocks count (absorb state (bytes.take 136)) (bytes.drop 136)

/-- The eight bytes of a lane, the lowest first. -/
def laneBytes (lane : UInt64) : Bytes :=
  (bytesOf 8 lane.toNat).reverse

end ChainScript.Keccak

namespace ChainScript

/-- The Keccak digest of the bytes. -/
def keccak256 (bytes : Bytes) : Hash :=
  let state := Keccak.absorbBlocks (bytes.length / 136 + 1) (Vector.replicate 25 0) (Keccak.padded bytes)
  ⟨Keccak.laneBytes state[0] ++ Keccak.laneBytes state[1] ++ Keccak.laneBytes state[2] ++
      Keccak.laneBytes state[3],
    by simp [Keccak.laneBytes, length_bytesOf]⟩

end ChainScript
