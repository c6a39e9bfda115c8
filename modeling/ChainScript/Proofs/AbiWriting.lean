import Mathlib.Algebra.GroupWithZero.Nat
import ChainScript.Proofs.AbiFitting

/-! What writing does with values that fit their types: it succeeds, and only for such values. The heads of a
sequence fill just the room that its types tell, so an offset counted behind them finds the tails. -/

namespace ChainScript.Abi
open AbiType

theorem encodeArray_eq_ok {element : AbiType} {items : List AbiValue} {bytes : Bytes} :
    encodeValue (.array element) (.array items) = .ok bytes ↔
      ∃ parts, encodeParts (List.replicate items.length element) items = .ok parts ∧
        bytesOf 32 items.length ++ assemble (element.headWidth * items.length) parts = bytes := by
  rw [encodeValue, bind_eq_ok]
  simp only [pure, Except.pure, Except.ok.injEq]

theorem encodeFixedArray_eq_ok {element : AbiType} {size : Nat} {items : List AbiValue} {bytes : Bytes} :
    encodeValue (.fixedArray element size) (.fixedArray items) = .ok bytes ↔
      size = items.length ∧ ∃ parts, encodeParts (List.replicate items.length element) items = .ok parts ∧
        assemble (element.headWidth * items.length) parts = bytes := by
  rw [encodeValue]
  split
  next count => simp only [count, true_and, bind_eq_ok, pure, Except.pure, Except.ok.injEq]
  next differs => simp only [differs, false_and, reduceCtorEq]

theorem encodeTuple_eq_ok {types : List AbiType} {members : List AbiValue} {bytes : Bytes} :
    encodeValue (.tuple types) (.tuple members) = .ok bytes ↔
      types.length = members.length ∧ ∃ parts, encodeParts types members = .ok parts ∧
        assemble (headWidths types) parts = bytes := by
  rw [encodeValue]
  split
  next count => simp only [count, true_and, bind_eq_ok, pure, Except.pure, Except.ok.injEq]
  next differs => simp only [differs, false_and, reduceCtorEq]

theorem encodeParts_cons_eq_ok {type : AbiType} {types : List AbiType} {value : AbiValue} {values : List AbiValue}
    {parts : List Part} :
    encodeParts (type :: types) (value :: values) = .ok parts ↔
      ∃ bytes rest, encodeValue type value = .ok bytes ∧ encodeParts types values = .ok rest ∧
        ⟨type.isDynamic, bytes⟩ :: rest = parts := by
  rw [encodeParts]
  simp only [bind_eq_ok, pure, Except.pure, Except.ok.injEq, exists_and_left]

theorem encode_eq_ok {types : List AbiType} {values : List AbiValue} {data : Bytes} :
    encode types values = .ok data ↔
      types.length = values.length ∧ ∃ parts, encodeParts types values = .ok parts ∧
        assemble (headWidths types) parts = data := by
  rw [encode]
  split
  next count => simp only [count, true_and, bind_eq_ok, pure, Except.pure, Except.ok.injEq]
  next differs => simp only [differs, false_and, reduceCtorEq]

mutual
theorem encodeValue_of_fits {type : AbiType} {value : AbiValue} (fits : Shaped fitting type value) :
    ∃ bytes, encodeValue type value = .ok bytes := by
  cases fits with
  | address | uint | int | bool | bytes | string => exact ⟨_, rfl⟩
  | fixedBytes allowed => exact ⟨_, by rw [encodeValue, if_pos allowed.1]⟩
  | array each =>
    obtain ⟨parts, made⟩ := encodeParts_of_fitAll each
    exact ⟨_, encodeArray_eq_ok.mpr ⟨parts, made, rfl⟩⟩
  | fixedArray count each =>
    obtain ⟨parts, made⟩ := encodeParts_of_fitAll each
    exact ⟨_, encodeFixedArray_eq_ok.mpr ⟨count, parts, made, rfl⟩⟩
  | tuple each =>
    obtain ⟨parts, made⟩ := encodeParts_of_fitAll each
    exact ⟨_, encodeTuple_eq_ok.mpr ⟨each.length_eq, parts, made, rfl⟩⟩
termination_by structural value

theorem encodeParts_of_fitAll {types : List AbiType} {values : List AbiValue} (fits : FitAll types values) :
    ∃ parts, encodeParts types values = .ok parts := by
  cases fits with
  | nil => exact ⟨[], rfl⟩
  | cons first rest =>
    obtain ⟨bytes, made⟩ := encodeValue_of_fits first
    obtain ⟨parts, others⟩ := encodeParts_of_fitAll rest
    exact ⟨_, encodeParts_cons_eq_ok.mpr ⟨bytes, parts, made, others, rfl⟩⟩
termination_by structural values
end

mutual
theorem fits_of_encodeValue {type : AbiType} {value : AbiValue} {bytes : Bytes} (narrow : Every Narrow type)
    (made : encodeValue type value = .ok bytes) : Shaped fitting type value := by
  cases value with
  | address account =>
    cases type with
    | address => exact .address account
    | _ => cases made
  | uint word =>
    cases type with
    | uint bits => exact .uint bits word
    | _ => cases made
  | int number =>
    cases type with
    | int bits => exact .int bits trivial
    | _ => cases made
  | bool set =>
    cases type with
    | bool => exact .bool set
    | _ => cases made
  | bytes content =>
    cases type with
    | bytes => exact .bytes content
    | _ => cases made
  | fixedBytes content =>
    cases type with
    | fixedBytes width =>
      rw [encodeValue] at made
      split at made
      next fits => exact .fixedBytes ⟨fits, narrow⟩
      next => cases made
    | _ => cases made
  | string content =>
    cases type with
    | string => exact .string content
    | _ => cases made
  | array items =>
    cases type with
    | array element =>
      obtain ⟨parts, written, _⟩ := encodeArray_eq_ok.mp made
      exact .array (fitAll_of_encodeParts (everyAll_replicate narrow.2 _) List.length_replicate written)
    | _ => cases made
  | fixedArray items =>
    cases type with
    | fixedArray element size =>
      obtain ⟨count, parts, written, _⟩ := encodeFixedArray_eq_ok.mp made
      exact .fixedArray count (fitAll_of_encodeParts (everyAll_replicate narrow.2 _) List.length_replicate written)
    | _ => cases made
  | tuple members =>
    cases type with
    | tuple types =>
      obtain ⟨count, parts, written, _⟩ := encodeTuple_eq_ok.mp made
      exact .tuple (fitAll_of_encodeParts narrow.2 count written)
    | _ => cases made
termination_by structural value

theorem fitAll_of_encodeParts {types : List AbiType} {values : List AbiValue} {parts : List Part}
    (narrow : EveryAll Narrow types) (count : types.length = values.length)
    (made : encodeParts types values = .ok parts) : FitAll types values := by
  cases values with
  | nil =>
    rw [List.length_eq_zero_iff.mp count]
    exact .nil
  | cons value rest =>
    cases types with
    | nil => cases count
    | cons type others =>
      obtain ⟨bytes, parts, first, written, _⟩ := encodeParts_cons_eq_ok.mp made
      exact .cons (fits_of_encodeValue narrow.1 first)
        (fitAll_of_encodeParts narrow.2 (Nat.succ.inj count) written)
termination_by structural values
end

/-- The bytes that a part takes up among the heads. -/
def Part.headWidth (part : Part) : Nat :=
  if part.dynamic then 32 else part.bytes.length

theorem length_heads (offset : Nat) (parts : List Part) :
    (headsAndTails offset parts).1.length = (parts.map Part.headWidth).sum := by
  induction parts generalizing offset with
  | nil => rfl
  | cons part rest ih =>
    simp only [headsAndTails, List.map_cons, List.sum_cons, Part.headWidth]
    split
    · simp only [List.length_append, length_bytesOf, ih]
    · simp only [List.length_append, ih]

private theorem tails_of_static {parts : List Part} (static : ∀ part ∈ parts, part.dynamic = false)
    (offset : Nat) : (headsAndTails offset parts).2 = [] := by
  induction parts with
  | nil => rfl
  | cons part rest ih =>
    have own := static part List.mem_cons_self
    have others := ih (fun part member => static part (List.mem_cons_of_mem _ member))
    simp only [headsAndTails, own, Bool.false_eq_true, if_false, others]

private theorem length_assemble_static {parts : List Part} (static : ∀ part ∈ parts, part.dynamic = false)
    (width : Nat) : (assemble width parts).length = (parts.map Part.headWidth).sum := by
  simp only [assemble, tails_of_static static, List.append_nil, length_heads]

theorem headWidth_of_dynamic {type : AbiType} (dynamic : type.isDynamic = true) : type.headWidth = 32 := by
  cases type with
  | fixedArray element size => exact if_pos dynamic
  | tuple members => exact if_pos dynamic
  | _ => rfl

theorem headWidths_replicate (type : AbiType) (count : Nat) :
    headWidths (List.replicate count type) = type.headWidth * count := by
  induction count with
  | zero => rfl
  | succ count ih => rw [List.replicate_succ, headWidths, ih, Nat.mul_succ, Nat.add_comm]

theorem anyDynamic_replicate {type : AbiType} (static : type.isDynamic = false) (count : Nat) :
    anyDynamic (List.replicate count type) = false := by
  induction count with
  | zero => rfl
  | succ count ih => rw [List.replicate_succ, anyDynamic, static, ih]; rfl

theorem static_parts {types : List AbiType} {values : List AbiValue} {parts : List Part}
    (made : encodeParts types values = .ok parts) (static : anyDynamic types = false) :
    ∀ part ∈ parts, part.dynamic = false := by
  induction types generalizing values parts with
  | nil =>
    cases values <;> cases made <;> exact fun _ member => nomatch member
  | cons type others ih =>
    cases values with
    | nil => cases made; exact fun _ member => nomatch member
    | cons value rest =>
      obtain ⟨bytes, found, _, written, rfl⟩ := encodeParts_cons_eq_ok.mp made
      obtain ⟨own, otherwise⟩ := Bool.or_eq_false_iff.mp static
      intro part member
      rcases List.mem_cons.mp member with rfl | member
      · exact own
      · exact ih written otherwise part member

mutual
/-- A value that stands where it is declared takes up the room that its type tells. -/
theorem length_of_static {type : AbiType} {value : AbiValue} {bytes : Bytes} (fits : Shaped fitting type value)
    (made : encodeValue type value = .ok bytes) (static : type.isDynamic = false) :
    bytes.length = type.headWidth := by
  cases fits with
  | address account =>
    rw [← Except.ok.inj made, List.length_append, List.length_replicate, account.length_toList]
    rfl
  | uint bits word =>
    rw [← Except.ok.inj made]
    exact word.length_toBytes
  | @int bits number allowed =>
    rw [← Except.ok.inj made]
    exact number.length_toBytes
  | bool set =>
    rw [← Except.ok.inj made]
    exact length_bytesOf 32 set.toNat
  | bytes | string | array => cases static
  | @fixedBytes width content allowed =>
    obtain ⟨narrow, word⟩ := allowed
    rw [encodeValue, if_pos narrow] at made
    rw [← Except.ok.inj made, List.length_append, List.length_replicate]
    change content.length + (32 - content.length) = 32
    omega
  | @fixedArray element size items count each =>
    obtain ⟨_, parts, written, rfl⟩ := encodeFixedArray_eq_ok.mp made
    have widths := widths_of_parts each written
    rw [headWidths_replicate] at widths
    have inner : element.isDynamic = false := static
    rw [length_assemble_static (static_parts written (anyDynamic_replicate inner _)), widths, headWidth, inner, count]
    rfl
  | @tuple types members each =>
    obtain ⟨_, parts, written, rfl⟩ := encodeTuple_eq_ok.mp made
    have inner : anyDynamic types = false := static
    rw [length_assemble_static (static_parts written inner), widths_of_parts each written, headWidth, inner]
    rfl
termination_by structural value

theorem widths_of_parts {types : List AbiType} {values : List AbiValue} {parts : List Part}
    (fits : FitAll types values) (made : encodeParts types values = .ok parts) :
    (parts.map Part.headWidth).sum = headWidths types := by
  cases fits with
  | nil => cases made; rfl
  | @cons type others value rest first fitRest =>
    obtain ⟨bytes, found, own, written, rfl⟩ := encodeParts_cons_eq_ok.mp made
    have width : (Part.mk type.isDynamic bytes).headWidth = type.headWidth := by
      cases dynamic : type.isDynamic with
      | true => exact (headWidth_of_dynamic dynamic).symm
      | false => exact length_of_static first own dynamic
    rw [List.map_cons, List.sum_cons, width, widths_of_parts fitRest written, headWidths]
termination_by structural values
end

/-- The heads of a sequence take up the room that its types tell, wherever its tails start. -/
theorem length_heads_of_parts {types : List AbiType} {values : List AbiValue} {parts : List Part}
    (fits : FitAll types values) (made : encodeParts types values = .ok parts) (offset : Nat) :
    (headsAndTails offset parts).1.length = headWidths types := by
  rw [length_heads, widths_of_parts fits made]

end ChainScript.Abi
