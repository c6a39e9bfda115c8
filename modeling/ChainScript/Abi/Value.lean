import ChainScript.Data.Word

/-! Contract values. -/

namespace ChainScript

inductive AbiValue where
  | address (account : Address)
  | uint (word : Word)
  | int (number : SignedWord)
  | bool (set : Bool)
  | bytes (content : Bytes)
  | fixedBytes (content : Bytes)
  | string (content : String)
  | array (items : List AbiValue)
  | fixedArray (items : List AbiValue)
  | tuple (members : List AbiValue)
deriving Inhabited

namespace AbiValue

mutual
def same : AbiValue → AbiValue → Bool
  | .address account, .address other => account == other
  | .uint word, .uint other => word == other
  | .int number, .int other => number == other
  | .bool set, .bool other => set == other
  | .bytes content, .bytes other | .fixedBytes content, .fixedBytes other => content == other
  | .string content, .string other => content == other
  | .array items, .array others | .fixedArray items, .fixedArray others | .tuple items, .tuple others =>
    sameAll items others
  | _, _ => false

def sameAll : List AbiValue → List AbiValue → Bool
  | [], [] => true
  | value :: rest, other :: others => same value other && sameAll rest others
  | _, _ => false
end

mutual
theorem same_iff_eq (left right : AbiValue) : same left right = true ↔ left = right := by
  cases left with
  | array items =>
    cases right with
    | array others => simp [same, sameAll_iff_eq items others]
    | _ => simp [same]
  | fixedArray items =>
    cases right with
    | fixedArray others => simp [same, sameAll_iff_eq items others]
    | _ => simp [same]
  | tuple members =>
    cases right with
    | tuple others => simp [same, sameAll_iff_eq members others]
    | _ => simp [same]
  | _ => cases right <;> simp [same]

theorem sameAll_iff_eq (left right : List AbiValue) : sameAll left right = true ↔ left = right := by
  match left, right with
  | [], [] => simp [sameAll]
  | value :: rest, other :: others => simp [sameAll, same_iff_eq value other, sameAll_iff_eq rest others]
  | [], _ :: _ => simp [sameAll]
  | _ :: _, [] => simp [sameAll]
end

instance : DecidableEq AbiValue := fun left right =>
  decidable_of_iff (same left right = true) (same_iff_eq left right)

mutual
/-- A value in logs: numbers in decimal, bytes in marked hexadecimal, members apart by commas. -/
def toString : AbiValue → String
  | .address account => account.toString
  | .uint word => word.toDecimal
  | .int number => number.toDecimal
  | .bool set => s!"{set}"
  | .bytes content | .fixedBytes content => Text.markedHex content
  | .string content => content
  | .array items | .fixedArray items | .tuple items => ",".intercalate (toStrings items)

def toStrings : List AbiValue → List String
  | [] => []
  | value :: rest => value.toString :: toStrings rest
end

end AbiValue

end ChainScript
