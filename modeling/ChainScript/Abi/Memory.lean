import ChainScript.Abi.Encode
import ChainScript.Abi.Decode

/-! What writing and reading ask of memory. A list as long as the size of a fixed array is built before any of its items
is looked at, room for the heads of a sequence is set aside before any of its values is written, and widths are worked
out in numbers of 64 bits, with a check. A list that cannot be addressed and a width that is no such number stop the
program: there is no answer then, not even a fault. Memory that can be addressed is taken to be there.

`encode` and `decode` are the answers where nothing stops the program. Calls and receipts are written and read by these:
their sizes are taken to be addressable. -/

namespace ChainScript

namespace AbiType

mutual
/-- Whether the head width of the type can be worked out in numbers of 64 bits. -/
def measurable : AbiType → Bool
  | .fixedArray element size =>
    isDynamic element || (measurable element && decide (headWidth element * size < UInt64.size))
  | .tuple members => anyDynamic members || allMeasurable members
  | _ => true

/-- Whether the head widths of the types can be, and their sum. -/
def allMeasurable : List AbiType → Bool
  | [] => true
  | type :: rest =>
    measurable type && allMeasurable rest && decide (headWidth type + headWidths rest < UInt64.size)
end

end AbiType

namespace Abi
open AbiType

/-- A list of so many bytes can be addressed. -/
def addressable (bytes : Nat) : Bool :=
  decide (bytes < 0x8000000000000000)

/-- The bytes that a type takes up in a list of types. -/
def typeFootprint : Nat := 24

/-- The bytes that a value takes up in a list of values. -/
def valueFootprint : Nat := 40

/-- Whether the program gets through a step and what follows it. Nothing follows a fault. -/
def getsThrough {ε α : Type} (step : Except ε α) (next : α → Bool) : Bool :=
  match step with
  | .ok value => next value
  | .error _ => true

/-- Whether room for the heads of a sequence can be set aside. -/
def roomForHeads (types : List AbiType) : Bool :=
  allMeasurable types && addressable (headWidths types)

mutual
/-- Whether the program gets through writing a value. -/
def roomForValue (type : AbiType) (value : AbiValue) : Bool :=
  match value, type with
  | .array items, .array element =>
    roomForHeads (List.replicate items.length element) &&
      roomForParts (List.replicate items.length element) items
  | .fixedArray items, .fixedArray element size =>
    -- The list of types comes first; that there are not as many items is noticed only then.
    addressable (typeFootprint * size) &&
      (size != items.length || (roomForHeads (List.replicate items.length element) &&
        roomForParts (List.replicate items.length element) items))
  | .tuple members, .tuple types =>
    types.length != members.length || (roomForHeads types && roomForParts types members)
  | _, _ => true

def roomForParts (types : List AbiType) (values : List AbiValue) : Bool :=
  match values, types with
  | value :: rest, type :: others =>
    roomForValue type value && getsThrough (encodeValue type value) fun _ => roomForParts others rest
  | _, _ => true
end

/-- The bytes of a sequence of values, or the fault that writing ends with, or nothing if the program is stopped. -/
def encode? (types : List AbiType) (values : List AbiValue) : Option (Except EncodeFault Bytes) :=
  if types.length != values.length || (roomForHeads types && roomForParts types values) then
    some (encode types values)
  else none

/-- Whether the program gets through a slot of a sequence whose heads start at `base`, where `room` tells of the places
that a value of the type may have. -/
def roomInSlot (data : Bytes) (base : Nat) (type : AbiType) (room : Nat → Bool) (position : Nat) : Bool :=
  if type.isDynamic then
    getsThrough (readSize data position) fun offset => getsThrough (advance base offset) room
  else room position

/-- Whether the program gets through `count` slots of one type, from a position on. -/
def roomInSlots (data : Bytes) (base : Nat) (type : AbiType) (room : Nat → Bool) : (count : Nat) → Nat → Bool
  | 0, _ => true
  | count + 1, position =>
    roomInSlot data base type room position && getsThrough (slot data base type position) fun _ =>
      type.measurable && roomInSlots data base type room count (position + type.headWidth)

mutual
/-- Whether the program gets through reading the value at a position. -/
def roomToRead (data : Bytes) (type : AbiType) (position : Nat) : Bool :=
  match type with
  | .array element =>
    getsThrough (readSize data position) fun count =>
      addressable (valueFootprint * count) && getsThrough (advance position 32) fun base =>
        roomInSlots data base element (roomToRead data element) count base
  | .fixedArray element size =>
    addressable (valueFootprint * size) &&
      roomInSlots data position element (roomToRead data element) size position
  | .tuple members => roomForMembers data position members position
  | _ => true

/-- Whether the program gets through the slots of a sequence whose heads start at `base`, from a position on. The position
behind a value that was read is one of the data, so it needs no check of its own. -/
def roomForMembers (data : Bytes) (base : Nat) (types : List AbiType) (position : Nat) : Bool :=
  match types with
  | [] => true
  | type :: rest =>
    roomInSlot data base type (roomToRead data type) position && getsThrough (slot data base type position) fun _ =>
      type.measurable && roomForMembers data base rest (position + type.headWidth)
end

/-- The values of a sequence, or the fault that reading ends with, or nothing if the program is stopped. -/
def decode? (types : List AbiType) (data : Bytes) : Option (Except DecodeFault (List AbiValue)) :=
  if roomForMembers data 0 types 0 then some (decode types data) else none

end Abi

end ChainScript
