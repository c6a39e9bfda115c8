import ChainScript.Abi.Error

/-! Values read back from bytes. Positions are counted from the start of the data and stay below `2 ^ 64`;
the offsets in a sequence are counted from the start of its heads. -/

namespace ChainScript.Abi

/-- A position moved on by a distance. -/
def advance (position distance : Nat) : Except DecodeFault Nat :=
  if position + distance < UInt64.size then .ok (position + distance) else .error .positionOverflow

/-- The `count` bytes from a position on. -/
def slice (data : Bytes) (position count : Nat) : Except DecodeFault Bytes := do
  let stop ← advance position count
  if stop ≤ data.length then return (data.drop position).take count
  else throw (.tooShort stop data.length)

def readWord (data : Bytes) (position : Nat) : Except DecodeFault Bytes :=
  slice data position 32

/-- An offset or a count, which never exceeds the length of the data. -/
def readSize (data : Bytes) (position : Nat) : Except DecodeFault Nat := do
  let value := numberOf (← readWord data position)
  if value ≤ data.length then return value else throw (.outOfRange value)

/-- Bytes behind their count. -/
def readBytes (data : Bytes) (position : Nat) : Except DecodeFault Bytes := do
  let count ← readSize data position
  slice data (← advance position 32) count

/-- The values of `count` slots that stand `width` bytes apart. -/
def readSlots (slot : Nat → Except DecodeFault AbiValue) (width : Nat) :
    (count : Nat) → Nat → Except DecodeFault (List AbiValue)
  | 0, _ => .ok []
  | count + 1, position => do
    let value ← slot position
    let values ← readSlots slot width count (position + width)
    return value :: values

/-- Follows the offset that stands in a slot of a sequence whose heads start at `base`. -/
def throughOffset (data : Bytes) (read : Nat → Except DecodeFault AbiValue) (base position : Nat) :
    Except DecodeFault AbiValue := do
  let offset ← readSize data position
  read (← advance base offset)

mutual
/-- The value whose own bytes start at a position. The lists that are built on the way are taken to fit into memory; where
they do not, the program is stopped (`decode?`). -/
def decodeValue (data : Bytes) (type : AbiType) (position : Nat) : Except DecodeFault AbiValue :=
  match type with
  | .address => do
    let word ← readWord data position
    return .address (Octets.ofNat 20 (numberOf word))
  | .uint _ => do
    let word ← readWord data position
    return .uint (Word.ofBytes word)
  | .int _ => do
    let word ← readWord data position
    return .int (SignedWord.ofBytes word)
  | .bool => do
    let word ← readWord data position
    return .bool (word.getLastD 0 != 0)
  | .fixedBytes width => do
    let word ← readWord data position
    if width ≤ 32 then return .fixedBytes (word.take width) else throw (.wideFixedBytes width)
  | .bytes => .bytes <$> readBytes data position
  | .string => do
    let content ← readBytes data position
    match Text.ofUtf8 content with
    | .ok text => return .string text
    | .error fault => throw (.notText fault)
  | .array element => do
    let count ← readSize data position
    let base ← advance position 32
    let slot := if element.isDynamic then throughOffset data (decodeValue data element) base
      else decodeValue data element
    .array <$> readSlots slot element.headWidth count base
  | .fixedArray element size => do
    let slot := if element.isDynamic then throughOffset data (decodeValue data element) position
      else decodeValue data element
    .fixedArray <$> readSlots slot element.headWidth size position
  | .tuple members => .tuple <$> decodeMembers data position members position

/-- The values of a sequence whose heads start at `base`, from the slot at a position on. -/
def decodeMembers (data : Bytes) (base : Nat) (types : List AbiType) (position : Nat) :
    Except DecodeFault (List AbiValue) :=
  match types with
  | [] => .ok []
  | type :: rest => do
    let value ← if type.isDynamic then throughOffset data (decodeValue data type) base position
      else decodeValue data type position
    let values ← decodeMembers data base rest (position + type.headWidth)
    return value :: values
end

/-- The reader of one member of a sequence whose heads start at `base`. -/
def slot (data : Bytes) (base : Nat) (type : AbiType) : Nat → Except DecodeFault AbiValue :=
  if type.isDynamic then throughOffset data (decodeValue data type) base else decodeValue data type

/-- The values of a sequence that fills the data from its start. -/
def decode (types : List AbiType) (data : Bytes) : Except DecodeFault (List AbiValue) :=
  decodeMembers data 0 types 0

end ChainScript.Abi
