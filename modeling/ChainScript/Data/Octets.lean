import ChainScript.Text.Hex

/-! Byte strings of a fixed size, and the big-endian numbers that bytes hold. Addresses, hashes and selectors
are such strings, so a wrong size cannot be written down. -/

namespace ChainScript

/-- The number whose big-endian digits in base 256 follow `value`. -/
def numberFrom (value : Nat) : Bytes → Nat
  | [] => value
  | byte :: rest => numberFrom (256 * value + byte.toNat) rest

/-- The number that the bytes hold in big-endian order. -/
def numberOf (bytes : Bytes) : Nat :=
  numberFrom 0 bytes

/-- The lowest `count` base-256 digits of a number, in big-endian order. -/
def bytesOf : (count : Nat) → Nat → Bytes
  | 0, _ => []
  | count + 1, value => bytesOf count (value / 256) ++ [UInt8.ofNat value]

theorem length_bytesOf (count value : Nat) : (bytesOf count value).length = count := by
  induction count generalizing value with
  | zero => rfl
  | succ count ih => simp [bytesOf, ih]

/-- A byte string of exactly `size` bytes. -/
structure Octets (size : Nat) where
  toList : Bytes
  length_toList : toList.length = size
deriving DecidableEq

namespace Octets

/-- The bytes themselves, if they are as many as asked for. -/
def ofList? (size : Nat) (bytes : Bytes) : Option (Octets size) :=
  if h : bytes.length = size then some ⟨bytes, h⟩ else none

/-- The same byte throughout. -/
def fill (size : Nat) (byte : UInt8) : Octets size :=
  ⟨List.replicate size byte, List.length_replicate⟩

/-- The low bytes of a number. -/
def ofNat (size value : Nat) : Octets size :=
  ⟨bytesOf size value, length_bytesOf size value⟩

/-- The first bytes of a longer string. -/
def first {size : Nat} (octets : Octets size) (count : Nat) (le : count ≤ size) : Octets count :=
  ⟨octets.toList.take count, by simp [octets.length_toList, le]⟩

/-- The last bytes of a longer string. -/
def last {size : Nat} (octets : Octets size) (count : Nat) (le : count ≤ size) : Octets count :=
  ⟨octets.toList.drop (size - count), by simp [octets.length_toList]; omega⟩

/-- The spelling with the mark `0x`. -/
def toString {size : Nat} (octets : Octets size) : String :=
  Text.markedHex octets.toList

/-- The spelling that keeps the first and the last two bytes only. -/
def abridged {size : Nat} (octets : Octets size) : String :=
  Text.markedHex (octets.toList.take 2) ++ "…" ++ Text.hex (octets.toList.drop (size - 2))

/-- The bytes that marked hexadecimal digits spell, if they are as many as asked for. -/
def ofHex? (size : Nat) (text : List Char) : Option (Octets size) := do
  let digits ← Text.afterHexMark? text
  let bytes ← Text.bytesOfHex? digits
  ofList? size bytes

end Octets

/-- The account or contract that a transaction names. -/
abbrev Address := Octets 20

/-- A digest of 256 bits. -/
abbrev Hash := Octets 32

/-- The four bytes that name a function in call data. -/
abbrev Selector := Octets 4

end ChainScript
