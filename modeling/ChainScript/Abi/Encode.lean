import ChainScript.Abi.Error

/-! Values laid out as bytes. The heads of a sequence come first, in order; a value of a dynamic type has its
offset there, counted from the start of the heads, and its own bytes follow after all heads. -/

namespace ChainScript.Abi

/-- The bytes of one value of a sequence, and whether they are reached through an offset. -/
structure Part where
  dynamic : Bool
  bytes : Bytes
deriving DecidableEq

/-- The heads of the parts and the bytes that follow them, which start at `offset`. -/
def headsAndTails (offset : Nat) : List Part → Bytes × Bytes
  | [] => ([], [])
  | part :: rest =>
    if part.dynamic then
      let (heads, tails) := headsAndTails (offset + part.bytes.length) rest
      (bytesOf 32 offset ++ heads, part.bytes ++ tails)
    else
      let (heads, tails) := headsAndTails offset rest
      (part.bytes ++ heads, tails)

/-- The bytes of a sequence whose heads take up `width` bytes. -/
def assemble (width : Nat) (parts : List Part) : Bytes :=
  let (heads, tails) := headsAndTails width parts
  heads ++ tails

/-- The bytes behind their count, filled up with zeros to whole words. -/
def padded (content : Bytes) : Bytes :=
  bytesOf 32 content.length ++ content ++
    List.replicate ((content.length + 31) / 32 * 32 - content.length) 0

mutual
/-- The bytes of one value. The lists that are built on the way are taken to fit into memory; where they do not, the
program is stopped (`encode?`). -/
def encodeValue (type : AbiType) (value : AbiValue) : Except EncodeFault Bytes :=
  match value, type with
  | .address account, .address => .ok (List.replicate 12 0 ++ account.toList)
  | .uint word, .uint _ => .ok word.toBytes
  | .int number, .int _ => .ok number.toBytes
  | .bool set, .bool => .ok (bytesOf 32 set.toNat)
  | .fixedBytes content, .fixedBytes width =>
    if content.length ≤ width then .ok (content ++ List.replicate (32 - content.length) 0)
    else .error (.misfit value type)
  | .bytes content, .bytes => .ok (padded content)
  | .string content, .string => .ok (padded (Text.utf8 content))
  | .array items, .array element => do
    let parts ← encodeParts (List.replicate items.length element) items
    return bytesOf 32 items.length ++ assemble (element.headWidth * items.length) parts
  | .fixedArray items, .fixedArray element size =>
    if size = items.length then do
      let parts ← encodeParts (List.replicate items.length element) items
      return assemble (element.headWidth * items.length) parts
    else .error (.wrongCount size items.length)
  | .tuple members, .tuple types =>
    if types.length = members.length then do
      let parts ← encodeParts types members
      return assemble (AbiType.headWidths types) parts
    else .error (.wrongCount types.length members.length)
  | _, _ => .error (.misfit value type)

/-- The parts of as many values as there are types. -/
def encodeParts (types : List AbiType) (values : List AbiValue) : Except EncodeFault (List Part) :=
  match values, types with
  | value :: rest, type :: others => do
    let bytes ← encodeValue type value
    let parts ← encodeParts others rest
    return ⟨type.isDynamic, bytes⟩ :: parts
  | _, _ => .ok []
end

/-- The bytes of a sequence of values. -/
def encode (types : List AbiType) (values : List AbiValue) : Except EncodeFault Bytes :=
  if types.length = values.length then do
    let parts ← encodeParts types values
    return assemble (AbiType.headWidths types) parts
  else .error (.wrongCount types.length values.length)

end ChainScript.Abi
