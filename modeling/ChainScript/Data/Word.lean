import ChainScript.Data.Octets
import ChainScript.Text.Decimal

/-! Words of 256 bits, the numbers of the chain, and signed words kept as sign and magnitude. A signed word
can hold magnitudes that two's complement cannot; writing it reduces it modulo `2 ^ 256`. -/

namespace ChainScript

/-- An unsigned number below `2 ^ 256`. -/
abbrev Word := BitVec 256

namespace Word

def ofBytes (bytes : Bytes) : Word :=
  BitVec.ofNat 256 (numberOf bytes)

/-- The 32 bytes of a word, the highest first. -/
def toBytes (word : Word) : Bytes :=
  bytesOf 32 word.toNat

def toDecimal (word : Word) : String :=
  toString word.toNat

/-- A number as a word, if it fits. -/
def ofNat? (value : Nat) : Option Word :=
  let word := BitVec.ofNat 256 value
  if word.toNat = value then some word else none

/-- The word that decimal digits spell. The empty spelling is zero. -/
def ofDecimal? (digits : List Char) : Option Word :=
  Text.decimal? digits >>= ofNat?

/-- The word that at most 64 hexadecimal digits spell, after a further mark `0x` if there is one. The empty
spelling is zero. -/
def ofHex? (text : List Char) : Option Word :=
  let digits := match text with
    | '0' :: 'x' :: rest => rest
    | _ => text
  if digits.length ≤ 64 then Text.hexNumber? digits >>= ofNat? else none

/-- The low 64 bits, if there are no others. -/
def toUInt64? (word : Word) : Option UInt64 :=
  if word.toNat < UInt64.size then some (UInt64.ofNat word.toNat) else none

end Word

/-- A sign and a magnitude; zero has no sign. -/
structure SignedWord where
  magnitude : Word
  negative : Bool
  negative_ne_zero : negative = true → magnitude ≠ 0
deriving DecidableEq

namespace SignedWord

/-- The number with this magnitude, below zero if `below` is set and the magnitude is not zero. -/
def ofMagnitude (magnitude : Word) (below : Bool) : SignedWord where
  magnitude := magnitude
  negative := below && decide (magnitude ≠ 0)
  negative_ne_zero := by simp

instance : Inhabited SignedWord where
  default := ofMagnitude 0 false

/-- Two's complement: a word whose first bit is set stands for the negated complement plus one. Shorter
strings count as the low bytes of a word, and their own first bit decides the sign. -/
def ofBytes (bytes : Bytes) : SignedWord :=
  match bytes with
  | [] => ofMagnitude 0 false
  | first :: _ =>
    let word := Word.ofBytes bytes
    if 128 ≤ first.toNat then ofMagnitude (~~~word + 1) true else ofMagnitude word false

/-- The word that stands for the number in two's complement. -/
def toWord (number : SignedWord) : Word :=
  if number.negative then ~~~number.magnitude + 1 else number.magnitude

def toBytes (number : SignedWord) : Bytes :=
  number.toWord.toBytes

def ofInt64 (value : Int64) : SignedWord :=
  ofMagnitude (BitVec.ofNat 256 value.toInt.natAbs) (value < 0)

/-- The number itself. -/
def toInt (number : SignedWord) : Int :=
  if number.negative then -(number.magnitude.toNat : Int) else number.magnitude.toNat

def toDecimal (number : SignedWord) : String :=
  (if number.negative then "-" else "") ++ number.magnitude.toDecimal

end SignedWord

end ChainScript
