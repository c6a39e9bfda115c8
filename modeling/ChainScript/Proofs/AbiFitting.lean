import ChainScript.Abi.Encode
import ChainScript.Proofs.WordBytes
import ChainScript.Proofs.ExceptSteps

/-! Which values belong to which types. A value has the shape of its type member by member; what a scalar may
hold is left to rules, so that values fit to be written and values as they are read back share one definition. -/

namespace ChainScript

namespace AbiType

mutual
/-- Whether a type and all types inside it have a property. -/
def Every (holds : AbiType → Prop) : AbiType → Prop
  | .array element => holds (.array element) ∧ Every holds element
  | .fixedArray element size => holds (.fixedArray element size) ∧ Every holds element
  | .tuple members => holds (.tuple members) ∧ EveryAll holds members
  | type => holds type

def EveryAll (holds : AbiType → Prop) : List AbiType → Prop
  | [] => True
  | type :: rest => Every holds type ∧ EveryAll holds rest
end

/-- Byte strings of a fixed size fit into a word. -/
def Narrow : AbiType → Prop
  | .fixedBytes width => width ≤ 32
  | _ => True

/-- The items of an array take up room. -/
def Roomy : AbiType → Prop
  | .array element => element.headWidth ≠ 0
  | _ => True

theorem everyAll_iff {holds : AbiType → Prop} {types : List AbiType} :
    EveryAll holds types ↔ ∀ type ∈ types, Every holds type := by
  induction types with
  | nil => exact ⟨fun _ => List.forall_mem_nil _, fun _ => trivial⟩
  | cons type rest ih => rw [EveryAll, List.forall_mem_cons, ih]

theorem everyAll_replicate {holds : AbiType → Prop} {type : AbiType} (every : Every holds type) (count : Nat) :
    EveryAll holds (List.replicate count type) := by
  induction count with
  | zero => trivial
  | succ count ih => exact ⟨every, ih⟩

/-- What holds of a type as soon as it holds of its parts holds of every type. -/
theorem by_parts {motive : AbiType → Prop} (address : motive .address) (uint : ∀ bits, motive (.uint bits))
    (int : ∀ bits, motive (.int bits)) (bool : motive .bool) (bytes : motive .bytes)
    (fixedBytes : ∀ width, motive (.fixedBytes width)) (string : motive .string)
    (array : ∀ element, motive element → motive (.array element))
    (fixedArray : ∀ element size, motive element → motive (.fixedArray element size))
    (tuple : ∀ members, (∀ member ∈ members, motive member) → motive (.tuple members)) (type : AbiType) :
    motive type :=
  -- Members are a list inside the type, so its recursor asks for a motive of lists as well.
  @AbiType.rec motive (fun types => ∀ type ∈ types, motive type) address uint int bool bytes fixedBytes string array
    fixedArray tuple (List.forall_mem_nil _) (fun _ _ first rest => List.forall_mem_cons.mpr ⟨first, rest⟩) type

end AbiType

namespace Abi
open AbiType

/-- What the scalars of a value may hold. -/
structure ScalarRules where
  number : SignedWord → Prop
  width : (declared actual : Nat) → Prop

mutual
inductive Shaped (rules : ScalarRules) : AbiType → AbiValue → Prop where
  | address (account : Address) : Shaped rules .address (.address account)
  | uint (bits : Nat) (word : Word) : Shaped rules (.uint bits) (.uint word)
  | int (bits : Nat) {number : SignedWord} (allowed : rules.number number) :
      Shaped rules (.int bits) (.int number)
  | bool (set : Bool) : Shaped rules .bool (.bool set)
  | bytes (content : Bytes) : Shaped rules .bytes (.bytes content)
  | fixedBytes {width : Nat} {content : Bytes} (allowed : rules.width width content.length) :
      Shaped rules (.fixedBytes width) (.fixedBytes content)
  | string (content : String) : Shaped rules .string (.string content)
  | array {element : AbiType} {items : List AbiValue}
      (each : ShapedAll rules (List.replicate items.length element) items) :
      Shaped rules (.array element) (.array items)
  | fixedArray {element : AbiType} {size : Nat} {items : List AbiValue} (count : size = items.length)
      (each : ShapedAll rules (List.replicate items.length element) items) :
      Shaped rules (.fixedArray element size) (.fixedArray items)
  | tuple {types : List AbiType} {members : List AbiValue} (each : ShapedAll rules types members) :
      Shaped rules (.tuple types) (.tuple members)

/-- Exactly one value for each type, of its shape. -/
inductive ShapedAll (rules : ScalarRules) : List AbiType → List AbiValue → Prop where
  | nil : ShapedAll rules [] []
  | cons {type : AbiType} {types : List AbiType} {value : AbiValue} {values : List AbiValue}
      (first : Shaped rules type value) (rest : ShapedAll rules types values) :
      ShapedAll rules (type :: types) (value :: values)
end

/-- Any number, and fixed bytes of at most the declared width. -/
def fitting : ScalarRules where
  number _ := True
  width declared actual := actual ≤ declared ∧ declared ≤ 32

/-- Numbers in two's complement range, and fixed bytes of just the declared width. -/
def exact : ScalarRules where
  number := SignedWord.Ranged
  width declared actual := actual = declared ∧ declared ≤ 32

/-- Values that can be written as these types. -/
abbrev FitAll := ShapedAll fitting

/-- Values as reading gives them. -/
abbrev ExactAll := ShapedAll exact

theorem ShapedAll.length_eq {rules : ScalarRules} {types : List AbiType} {values : List AbiValue}
    (shaped : ShapedAll rules types values) : types.length = values.length := by
  induction types generalizing values with
  | nil => cases shaped; rfl
  | cons type types ih =>
    cases shaped with
    | cons first rest => exact congrArg (· + 1) (ih rest)

/-- Values of equal types are as many as the types. -/
theorem ShapedAll.counted {rules : ScalarRules} {element : AbiType} {count : Nat} {items : List AbiValue}
    (shaped : ShapedAll rules (List.replicate count element) items) : count = items.length := by
  rw [← shaped.length_eq, List.length_replicate]

theorem ShapedAll.recounted {rules : ScalarRules} {element : AbiType} {count : Nat} {items : List AbiValue}
    (shaped : ShapedAll rules (List.replicate count element) items) :
    ShapedAll rules (List.replicate items.length element) items := by
  rwa [← shaped.counted]

mutual
theorem Shaped.fits {type : AbiType} {value : AbiValue} (shaped : Shaped exact type value) :
    Shaped fitting type value := by
  cases shaped with
  | address account => exact .address account
  | uint bits word => exact .uint bits word
  | int bits allowed => exact .int bits trivial
  | bool set => exact .bool set
  | bytes content => exact .bytes content
  | fixedBytes allowed => exact .fixedBytes ⟨Nat.le_of_eq allowed.1, allowed.2⟩
  | string content => exact .string content
  | array each => exact .array each.fits
  | fixedArray count each => exact .fixedArray count each.fits
  | tuple each => exact .tuple each.fits
termination_by structural value

theorem ShapedAll.fits {types : List AbiType} {values : List AbiValue} (shaped : ExactAll types values) :
    FitAll types values := by
  cases shaped with
  | nil => exact .nil
  | cons first rest => exact .cons first.fits rest.fits
termination_by structural values
end

mutual
/-- The value as it comes back from being written: fixed bytes are filled up with zeros to their declared width,
and signed numbers are reduced to two's complement range. -/
def canonical (type : AbiType) (value : AbiValue) : AbiValue :=
  match value, type with
  | .int number, _ => .int number.reduced
  | .fixedBytes content, .fixedBytes width => .fixedBytes (content ++ List.replicate (width - content.length) 0)
  | .array items, .array element => .array (canonicalAll (List.replicate items.length element) items)
  | .fixedArray items, .fixedArray element _ =>
    .fixedArray (canonicalAll (List.replicate items.length element) items)
  | .tuple members, .tuple types => .tuple (canonicalAll types members)
  | value, _ => value

def canonicalAll (types : List AbiType) (values : List AbiValue) : List AbiValue :=
  match values, types with
  | value :: rest, type :: others => canonical type value :: canonicalAll others rest
  | _, _ => []
end

mutual
theorem canonical_of_exact {type : AbiType} {value : AbiValue} (shaped : Shaped exact type value) :
    canonical type value = value := by
  cases shaped with
  | address | uint | bool | bytes | string => rfl
  | int bits allowed => rw [canonical, SignedWord.reduced_of_ranged allowed]
  | fixedBytes allowed =>
    rw [canonical, allowed.1, Nat.sub_self]
    simp only [List.replicate_zero, List.append_nil]
  | array each => rw [canonical, canonicalAll_of_exact each]
  | fixedArray count each => rw [canonical, canonicalAll_of_exact each]
  | tuple each => rw [canonical, canonicalAll_of_exact each]
termination_by structural value

theorem canonicalAll_of_exact {types : List AbiType} {values : List AbiValue} (shaped : ExactAll types values) :
    canonicalAll types values = values := by
  cases shaped with
  | nil => rfl
  | cons first rest => rw [canonicalAll, canonical_of_exact first, canonicalAll_of_exact rest]
termination_by structural values
end

mutual
theorem exact_canonical {type : AbiType} {value : AbiValue} (fits : Shaped fitting type value) :
    Shaped exact type (canonical type value) := by
  cases fits with
  | address account => exact .address account
  | uint bits word => exact .uint bits word
  | int bits => exact .int bits (SignedWord.ranged_reduced _)
  | bool set => exact .bool set
  | bytes content => exact .bytes content
  | fixedBytes allowed =>
    rw [canonical]
    refine .fixedBytes ⟨?_, allowed.2⟩
    rw [List.length_append, List.length_replicate]
    exact Nat.add_sub_of_le allowed.1
  | string content => exact .string content
  | array each =>
    rw [canonical]
    exact .array (exactAll_canonicalAll each).recounted
  | fixedArray count each =>
    have inner := exactAll_canonicalAll each
    rw [canonical]
    exact .fixedArray (count.trans inner.counted) inner.recounted
  | tuple each =>
    rw [canonical]
    exact .tuple (exactAll_canonicalAll each)
termination_by structural value

/-- The canonical form of values that can be written is a form that reading gives. -/
theorem exactAll_canonicalAll {types : List AbiType} {values : List AbiValue} (fits : FitAll types values) :
    ExactAll types (canonicalAll types values) := by
  cases fits with
  | nil => exact .nil
  | cons first rest => exact .cons (exact_canonical first) (exactAll_canonicalAll rest)
termination_by structural values
end

mutual
/-- No array in the value whose items take up no room has more than `limit` of them. -/
def Counted (limit : Nat) (type : AbiType) (value : AbiValue) : Prop :=
  match value, type with
  | .array items, .array element =>
    (element.headWidth = 0 → items.length ≤ limit) ∧
      CountedAll limit (List.replicate items.length element) items
  | .fixedArray items, .fixedArray element _ => CountedAll limit (List.replicate items.length element) items
  | .tuple members, .tuple types => CountedAll limit types members
  | _, _ => True

def CountedAll (limit : Nat) (types : List AbiType) (values : List AbiValue) : Prop :=
  match values, types with
  | value :: rest, type :: others => Counted limit type value ∧ CountedAll limit others rest
  | _, _ => True
end

mutual
theorem counted_of_roomy {rules : ScalarRules} {type : AbiType} {value : AbiValue} (limit : Nat)
    (shaped : Shaped rules type value) (roomy : Every Roomy type) : Counted limit type value := by
  cases shaped with
  | address | uint | int | bool | bytes | fixedBytes | string => trivial
  | array each =>
    obtain ⟨room, inner⟩ := roomy
    exact ⟨fun empty => absurd empty room, countedAll_of_roomy limit each (everyAll_replicate inner _)⟩
  | fixedArray count each => exact countedAll_of_roomy limit each (everyAll_replicate roomy.2 _)
  | tuple each => exact countedAll_of_roomy limit each roomy.2
termination_by structural value

theorem countedAll_of_roomy {rules : ScalarRules} {types : List AbiType} {values : List AbiValue} (limit : Nat)
    (shaped : ShapedAll rules types values) (roomy : EveryAll Roomy types) : CountedAll limit types values := by
  cases shaped with
  | nil => trivial
  | cons first rest => exact ⟨counted_of_roomy limit first roomy.1, countedAll_of_roomy limit rest roomy.2⟩
termination_by structural values
end

end Abi

end ChainScript
