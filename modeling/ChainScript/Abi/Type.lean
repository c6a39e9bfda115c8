/-! The types of contract values and their canonical spelling. A value of a dynamic type is reached through
an offset; any other value stands where it is declared, in as many bytes as its type tells. -/

namespace ChainScript

inductive AbiType where
  | address
  | uint (bits : Nat)
  | int (bits : Nat)
  | bool
  | bytes
  | fixedBytes (width : Nat)
  | string
  | array (element : AbiType)
  | fixedArray (element : AbiType) (size : Nat)
  | tuple (members : List AbiType)
deriving Inhabited

namespace AbiType

mutual
def same : AbiType → AbiType → Bool
  | .address, .address | .bool, .bool | .bytes, .bytes | .string, .string => true
  | .uint bits, .uint others | .int bits, .int others => bits == others
  | .fixedBytes width, .fixedBytes other => width == other
  | .array element, .array other => same element other
  | .fixedArray element size, .fixedArray other count => same element other && size == count
  | .tuple members, .tuple others => sameAll members others
  | _, _ => false

def sameAll : List AbiType → List AbiType → Bool
  | [], [] => true
  | type :: rest, other :: others => same type other && sameAll rest others
  | _, _ => false
end

mutual
theorem same_iff_eq (left right : AbiType) : same left right = true ↔ left = right := by
  cases left with
  | array element =>
    cases right with
    | array other => simp [same, same_iff_eq element other]
    | _ => simp [same]
  | fixedArray element size =>
    cases right with
    | fixedArray other count => simp [same, same_iff_eq element other]
    | _ => simp [same]
  | tuple members =>
    cases right with
    | tuple others => simp [same, sameAll_iff_eq members others]
    | _ => simp [same]
  | _ => cases right <;> simp [same]

theorem sameAll_iff_eq (left right : List AbiType) : sameAll left right = true ↔ left = right := by
  match left, right with
  | [], [] => simp [sameAll]
  | type :: rest, other :: others => simp [sameAll, same_iff_eq type other, sameAll_iff_eq rest others]
  | [], _ :: _ => simp [sameAll]
  | _ :: _, [] => simp [sameAll]
end

instance : DecidableEq AbiType := fun left right =>
  decidable_of_iff (same left right = true) (same_iff_eq left right)

mutual
/-- Whether values of the type are reached through an offset. -/
def isDynamic : AbiType → Bool
  | .bytes | .string | .array _ => true
  | .fixedArray element _ => isDynamic element
  | .tuple members => anyDynamic members
  | _ => false

def anyDynamic : List AbiType → Bool
  | [] => false
  | type :: rest => isDynamic type || anyDynamic rest
end

mutual
/-- The bytes that a value of the type takes up where it is declared: an offset, or the value itself. This is an exact
number; whether it can be worked out in 64 bits is told by `measurable`. -/
def headWidth : AbiType → Nat
  | .fixedArray element size => if isDynamic element then 32 else headWidth element * size
  | .tuple members => if anyDynamic members then 32 else headWidths members
  | _ => 32

def headWidths : List AbiType → Nat
  | [] => 0
  | type :: rest => headWidth type + headWidths rest
end

mutual
/-- The spelling of the type in signatures. -/
def toString : AbiType → String
  | .address => "address"
  | .uint bits => "uint" ++ ToString.toString bits
  | .int bits => "int" ++ ToString.toString bits
  | .bool => "bool"
  | .bytes => "bytes"
  | .fixedBytes width => "bytes" ++ ToString.toString width
  | .string => "string"
  | .array element => element.toString ++ "[]"
  | .fixedArray element size => element.toString ++ "[" ++ ToString.toString size ++ "]"
  | .tuple members => "(" ++ ",".intercalate (toStrings members) ++ ")"

def toStrings : List AbiType → List String
  | [] => []
  | type :: rest => type.toString :: toStrings rest
end

end AbiType

end ChainScript
