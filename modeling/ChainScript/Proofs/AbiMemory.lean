import ChainScript.Abi.Memory
import ChainScript.Proofs.AbiWriting
import ChainScript.Proofs.AbiReading

/-! When writing and reading are not stopped: if fixed arrays have no more items than a list can, and heads can be
addressed. Sizes near `2 ^ 57` and beyond are the only ones that are ruled out by this. -/

namespace ChainScript

namespace AbiType

theorem anyDynamic_eq_false_iff {types : List AbiType} :
    anyDynamic types = false ↔ ∀ type ∈ types, type.isDynamic = false := by
  induction types with
  | nil => exact ⟨fun _ => List.forall_mem_nil _, fun _ => rfl⟩
  | cons type rest ih => rw [anyDynamic, Bool.or_eq_false_iff, ih, List.forall_mem_cons]

/-- A fixed array of so few items that a list of them can be addressed even if each takes up 64 bytes, and items or
members whose heads can be. -/
def Modest : AbiType → Prop
  | .fixedArray element size => size < 2 ^ 57 ∧ element.headWidth * size < 2 ^ 63
  | .tuple members => headWidths members < 2 ^ 63
  | _ => True

theorem allMeasurable_iff {types : List AbiType} :
    allMeasurable types = true ↔ (∀ type ∈ types, type.measurable = true) ∧ headWidths types < UInt64.size := by
  induction types with
  | nil => exact iff_of_true rfl ⟨List.forall_mem_nil _, by decide⟩
  | cons type rest ih =>
    rw [allMeasurable, Bool.and_eq_true, Bool.and_eq_true, ih, decide_eq_true_iff, List.forall_mem_cons, headWidths]
    constructor
    · rintro ⟨⟨own, others, -⟩, whole⟩
      exact ⟨⟨own, others⟩, whole⟩
    · rintro ⟨⟨own, others⟩, whole⟩
      exact ⟨⟨own, others, Nat.lt_of_le_of_lt (Nat.le_add_left _ _) whole⟩, whole⟩

theorem measurable_of_modest {type : AbiType} (modest : Every Modest type) : type.measurable = true := by
  have small {width : Nat} (held : width < 2 ^ 63) : width < UInt64.size := Nat.lt_trans held (by decide)
  induction type using by_parts with
  | address | uint | int | bool | bytes | fixedBytes | string | array => rfl
  | fixedArray element size ih =>
    rw [measurable, ih modest.2, decide_eq_true (small modest.1.2), Bool.and_self, Bool.or_true]
  | tuple members ih =>
    have each := everyAll_iff.mp modest.2
    have all : allMeasurable members = true :=
      allMeasurable_iff.mpr ⟨fun member inside => ih member inside (each member inside), small modest.1⟩
    rw [measurable, all, Bool.or_true]

end AbiType

namespace Abi
open AbiType

theorem getsThrough_of_forall {ε α : Type} {next : α → Bool} (through : ∀ value, next value = true)
    (step : Except ε α) : getsThrough step next = true := by
  cases step with
  | ok value => exact through value
  | error fault => rfl

/-- A list of so few items can be addressed if each of them takes up 64 bytes or less. -/
theorem addressable_of_few {footprint size : Nat} (small : footprint ≤ 64) (few : size < 2 ^ 57) :
    addressable (footprint * size) = true := by
  refine decide_eq_true ?_
  calc footprint * size
      ≤ 64 * size := Nat.mul_le_mul_right size small
    _ < 2 ^ 63 := by omega

theorem roomForHeads_of_modest {types : List AbiType} (modest : EveryAll Modest types)
    (heads : headWidths types < 2 ^ 63) : roomForHeads types = true := by
  have all : allMeasurable types = true :=
    allMeasurable_iff.mpr ⟨fun type member => measurable_of_modest (everyAll_iff.mp modest type member),
      Nat.lt_trans heads (by decide)⟩
  have held : addressable (headWidths types) = true := decide_eq_true heads
  rw [roomForHeads, all, held, Bool.and_self]

mutual
/-- The heads of the items can be addressed, of every array in the value. -/
def Compact (type : AbiType) (value : AbiValue) : Prop :=
  match value, type with
  | .array items, .array element =>
    element.headWidth * items.length < 2 ^ 63 ∧ CompactAll (List.replicate items.length element) items
  | .fixedArray items, .fixedArray element _ => CompactAll (List.replicate items.length element) items
  | .tuple members, .tuple types => CompactAll types members
  | _, _ => True

def CompactAll (types : List AbiType) (values : List AbiValue) : Prop :=
  match values, types with
  | value :: rest, type :: others => Compact type value ∧ CompactAll others rest
  | _, _ => True
end

mutual
theorem roomForValue_of_compact {type : AbiType} {value : AbiValue} (modest : Every Modest type)
    (compact : Compact type value) : roomForValue type value = true := by
  cases value with
  | array items =>
    cases type with
    | array element =>
      have each := everyAll_replicate modest.2 items.length
      have heads : headWidths (List.replicate items.length element) < 2 ^ 63 := by
        rw [headWidths_replicate]
        exact compact.1
      rw [roomForValue, roomForHeads_of_modest each heads, roomForParts_of_compact each compact.2, Bool.and_self]
    | _ => rfl
  | fixedArray items =>
    cases type with
    | fixedArray element size =>
      obtain ⟨⟨few, narrow⟩, inner⟩ := modest
      have each := everyAll_replicate inner items.length
      have listed : addressable (typeFootprint * size) = true := addressable_of_few (by decide) few
      rw [roomForValue, listed, Bool.true_and]
      by_cases count : size = items.length
      · have heads : headWidths (List.replicate items.length element) < 2 ^ 63 := by
          rw [headWidths_replicate, ← count]
          exact narrow
        rw [roomForHeads_of_modest each heads, roomForParts_of_compact each compact, Bool.and_self, Bool.or_true]
      · rw [bne_iff_ne.mpr count, Bool.true_or]
    | _ => rfl
  | tuple members =>
    cases type with
    | tuple types =>
      rw [roomForValue, roomForHeads_of_modest modest.2 modest.1, roomForParts_of_compact modest.2 compact,
        Bool.and_self, Bool.or_true]
    | _ => rfl
  | _ => rfl
termination_by structural value

theorem roomForParts_of_compact {types : List AbiType} {values : List AbiValue} (modest : EveryAll Modest types)
    (compact : CompactAll types values) : roomForParts types values = true := by
  cases values with
  | nil => rfl
  | cons value rest =>
    cases types with
    | nil => rfl
    | cons type others =>
      have following := roomForParts_of_compact modest.2 compact.2
      rw [roomForParts, roomForValue_of_compact modest.1 compact.1, Bool.true_and]
      exact getsThrough_of_forall (fun _ => following) _
termination_by structural values
end

/-- Values and types of which all lists and heads can be addressed. -/
structure Addressed (types : List AbiType) (values : List AbiValue) : Prop where
  sizes : EveryAll Modest types
  heads : headWidths types < 2 ^ 63
  arrays : CompactAll types values

theorem encode?_of_addressed {types : List AbiType} {values : List AbiValue} (addressed : Addressed types values) :
    encode? types values = some (encode types values) := by
  refine if_pos ?_
  rw [roomForHeads_of_modest addressed.sizes addressed.heads, roomForParts_of_compact addressed.sizes addressed.arrays,
    Bool.and_self, Bool.or_true]

theorem encode?_eq_some {types : List AbiType} {values : List AbiValue} {outcome : Except EncodeFault Bytes}
    (ended : encode? types values = some outcome) : encode types values = outcome := by
  unfold encode? at ended
  split at ended
  · exact Option.some.inj ended
  · cases ended

section
variable {data : Bytes} {base position : Nat}

theorem roomInSlot_of_static {type : AbiType} (static : type.isDynamic = false) (room : Nat → Bool) :
    roomInSlot data base type room position = room position := by
  rw [roomInSlot, static]
  rfl

theorem roomInSlots_of_static {type : AbiType} {room : Nat → Bool} (static : type.isDynamic = false)
    (measured : type.measurable = true) (through : ∀ position, room position = true) (count : Nat) :
    roomInSlots data base type room count position = true := by
  induction count generalizing position with
  | zero => rfl
  | succ count ih =>
    rw [roomInSlots, roomInSlot_of_static static, through, Bool.true_and, measured]
    exact getsThrough_of_forall (fun _ => ih) _

theorem roomForMembers_of_static {types : List AbiType} (static : ∀ type ∈ types, type.isDynamic = false)
    (modest : EveryAll Modest types) (through : ∀ type ∈ types, ∀ position, roomToRead data type position = true) :
    roomForMembers data base types position = true := by
  induction types generalizing position with
  | nil => rfl
  | cons type rest ih =>
    rw [List.forall_mem_cons] at static through
    rw [roomForMembers, roomInSlot_of_static static.1, through.1, Bool.true_and, measurable_of_modest modest.1]
    exact getsThrough_of_forall (fun _ => ih static.2 modest.2 through.2) _

end

theorem roomToRead_of_static {type : AbiType} (static : type.isDynamic = false) (modest : Every Modest type)
    (data : Bytes) (position : Nat) : roomToRead data type position = true := by
  induction type using by_parts generalizing position with
  | address | uint | int | bool | bytes | fixedBytes | string => rfl
  | array element => cases static
  | fixedArray element size ih =>
    have inner : element.isDynamic = false := static
    have listed : addressable (valueFootprint * size) = true := addressable_of_few (by decide) modest.1.1
    rw [roomToRead, listed, Bool.true_and]
    exact roomInSlots_of_static inner (measurable_of_modest modest.2) (ih inner modest.2) size
  | tuple members ih =>
    have each := anyDynamic_eq_false_iff.mp static
    have fitting := everyAll_iff.mp modest.2
    rw [roomToRead]
    exact roomForMembers_of_static each modest.2 fun member inside =>
      ih member inside (each member inside) (fitting member inside)

theorem decode?_of_static {types : List AbiType} (static : ∀ type ∈ types, type.isDynamic = false)
    (modest : EveryAll Modest types) (data : Bytes) : decode? types data = some (decode types data) := by
  refine if_pos (roomForMembers_of_static static modest fun type member => ?_)
  exact roomToRead_of_static (static type member) (everyAll_iff.mp modest type member) data

end Abi

end ChainScript
