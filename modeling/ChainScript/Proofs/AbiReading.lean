import ChainScript.Abi.Decode
import ChainScript.Proofs.ExceptSteps

/-! The reader, one member of a sequence at a time. Arrays of either kind are sequences of equal types, so what
holds of the members of a sequence holds of their items. -/

namespace ChainScript.Abi

/-- Bytes are given where they lie in the data and the position behind them has 64 bits. -/
theorem slice_eq_ok {data bytes : Bytes} {position count : Nat} :
    slice data position count = .ok bytes ↔ position + count < UInt64.size ∧ position + count ≤ data.length ∧
      (data.drop position).take count = bytes := by
  rw [slice, bind_eq_ok]
  constructor
  · rintro ⟨stop, moved, read⟩
    unfold advance at moved
    split at moved
    next near =>
      cases moved
      split at read
      next inside =>
        cases read
        exact ⟨near, inside, rfl⟩
      next => cases read
    next => cases moved
  · rintro ⟨near, inside, rfl⟩
    refine ⟨position + count, if_pos near, ?_⟩
    rw [if_pos inside]
    rfl

theorem slot_of_dynamic (data : Bytes) (base : Nat) {type : AbiType} (dynamic : type.isDynamic = true) :
    slot data base type = throughOffset data (decodeValue data type) base :=
  if_pos dynamic

theorem slot_of_static (data : Bytes) (base : Nat) {type : AbiType} (static : type.isDynamic = false) :
    slot data base type = decodeValue data type :=
  if_neg (static ▸ Bool.false_ne_true)

theorem decodeMembers_cons (data : Bytes) (base : Nat) (type : AbiType) (rest : List AbiType) (position : Nat) :
    decodeMembers data base (type :: rest) position = (do
      let value ← slot data base type position
      let values ← decodeMembers data base rest (position + type.headWidth)
      return value :: values) := by
  rw [decodeMembers]
  cases dynamic : type.isDynamic with
  | true => rw [slot_of_dynamic data base dynamic]; rfl
  | false => rw [slot_of_static data base dynamic]; rfl

theorem readSlots_eq_decodeMembers (data : Bytes) (base : Nat) (element : AbiType) (count position : Nat) :
    readSlots (slot data base element) element.headWidth count position =
      decodeMembers data base (List.replicate count element) position := by
  induction count generalizing position with
  | zero => rfl
  | succ count ih => rw [List.replicate_succ, decodeMembers_cons, readSlots, ih]

theorem decodeArray_eq (data : Bytes) (element : AbiType) (position : Nat) :
    decodeValue data (.array element) position = (do
      let count ← readSize data position
      let base ← advance position 32
      .array <$> decodeMembers data base (List.replicate count element) base) := by
  simp only [← readSlots_eq_decodeMembers]
  rw [decodeValue]
  rfl

theorem decodeFixedArray_eq (data : Bytes) (element : AbiType) (size position : Nat) :
    decodeValue data (.fixedArray element size) position =
      .fixedArray <$> decodeMembers data position (List.replicate size element) position := by
  rw [← readSlots_eq_decodeMembers, decodeValue]
  rfl

theorem decodeTuple_eq (data : Bytes) (members : List AbiType) (position : Nat) :
    decodeValue data (.tuple members) position = .tuple <$> decodeMembers data position members position := by
  rw [decodeValue]

end ChainScript.Abi
