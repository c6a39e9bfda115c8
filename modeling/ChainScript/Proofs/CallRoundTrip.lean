import Mathlib.Control.Monad.Basic
import ChainScript.Proofs.CallReading

/-! Call data that an interface writes for a method, read back. Names and selectors may repeat: the method means the
first function of its name, and the selector leads back to that function unless one in front of it has the same. -/

namespace ChainScript
open Abi AbiType

namespace Function

variable {function : Function} {arguments : List AbiValue} {data : Bytes}

theorem encodeCall_eq_ok_iff :
    function.encodeCall arguments = .ok data ↔
      ∃ payload, encode function.inputTypes arguments = .ok payload ∧ function.selector.toList ++ payload = data := by
  rw [encodeCall, bind_eq_ok]
  simp only [mapError_eq_ok, pure, Except.pure, Except.ok.injEq]

theorem selectorOf_encodeCall (made : function.encodeCall arguments = .ok data) :
    selectorOf data = .ok function.selector := by
  obtain ⟨payload, -, rfl⟩ := encodeCall_eq_ok_iff.mp made
  exact selectorOf_eq_ok_iff.mpr (List.take_left' function.selector.length_toList)

theorem decodeCall_encodeCall (narrow : EveryAll Narrow function.inputTypes) (roomy : EveryAll Roomy function.inputTypes)
    (made : function.encodeCall arguments = .ok data) (short : data.length < UInt64.size) :
    function.decodeCall data = .ok (canonicalAll function.inputTypes arguments) := by
  refine decodeCall_eq_ok_iff.mpr ⟨selectorOf_encodeCall made, ?_⟩
  obtain ⟨payload, written, rfl⟩ := encodeCall_eq_ok_iff.mp made
  rw [List.drop_left' function.selector.length_toList]
  rw [List.length_append] at short
  exact decode_of_encode narrow roomy written (by omega)

end Function

namespace Interface

variable {interface : Interface} {method : String} {arguments : List AbiValue} {data : Bytes}

/-- The first function of a name, between those in front of it and those behind it. -/
theorem function_eq_ok_iff_append {function : Function} :
    interface.function method = .ok function ↔
      function.name = method ∧ ∃ before after, interface.functions = before ++ function :: after ∧
        ∀ earlier ∈ before, earlier.name ≠ method := by
  rw [function_eq_ok_iff, List.find?_eq_some_iff_append]
  simp only [decide_eq_true_eq, Bool.not_eq_true', decide_eq_false_iff_not, ne_eq]

theorem functionFor_of_append {function : Function} {before after : List Function}
    (selected : Function.selectorOf data = .ok function.selector)
    (placed : interface.functions = before ++ function :: after)
    (unlike : ∀ earlier ∈ before, earlier.selector ≠ function.selector) :
    interface.functionFor data = .ok function := by
  refine functionFor_of_selectorOf selected (List.find?_eq_some_iff_append.mpr ⟨decide_eq_true rfl, before, after, placed, ?_⟩)
  intro earlier member
  rw [Bool.not_eq_true', decide_eq_false_iff_not]
  exact unlike earlier member

/-- Call data that is written for a method starts with the selector of the first function of that name, and that function
reads from it the arguments that were given, in their canonical form. An outcome gets them under the names of the inputs.
The selector leads back to the function, and the call is shown with these arguments, if no function in front of it has
the same selector. Fixed bytes must fit into a word, items of arrays must take up room, and the data must be addressable
by 64 bits. -/
theorem encodeCall_reads_back {Value : Type} (narrow : ∀ function ∈ interface.functions, EveryAll Narrow function.inputTypes)
    (roomy : ∀ function ∈ interface.functions, EveryAll Roomy function.inputTypes)
    (made : interface.encodeCall method arguments = .ok data) (short : data.length < UInt64.size) :
    ∃ before function after, interface.functions = before ++ function :: after ∧ function.name = method ∧
      (∀ earlier ∈ before, earlier.name ≠ method) ∧ function.selector.toList <+: data ∧
      let given := canonicalAll function.inputTypes arguments
      function.decodeCall data = .ok given ∧ (ExactAll function.inputTypes arguments → given = arguments) ∧
      (∀ outcome : Outcome Value,
        let named := (outcome.withCall interface method data).arguments
        named.map (·.name) = function.inputs.map (·.name) ∧ named.map (·.value) = given) ∧
      ((∀ earlier ∈ before, earlier.selector ≠ function.selector) →
        interface.functionFor data = .ok function ∧
          interface.renderCall data = .ok (interface.callText method (NamedValue.zip function.inputs given))) := by
  obtain ⟨function, found, encoded⟩ := bind_eq_ok.mp made
  obtain ⟨named, before, after, placed, first⟩ := function_eq_ok_iff_append.mp found
  have declared : function ∈ interface.functions := List.mem_of_find?_eq_some (function_eq_ok_iff.mp found)
  have read := Function.decodeCall_encodeCall (narrow function declared) (roomy function declared) encoded short
  have count := Function.length_of_decodeCall read
  refine ⟨before, function, after, placed, named, first, ?_, read, canonicalAll_of_exact, ?_, ?_⟩
  · obtain ⟨payload, -, whole⟩ := Function.encodeCall_eq_ok_iff.mp encoded
    exact ⟨payload, whole⟩
  · intro outcome arguments
    have taken : arguments = NamedValue.zip function.inputs _ := Outcome.arguments_of_decodeCall found read outcome
    rw [taken]
    exact ⟨NamedValue.names_zip count, NamedValue.values_zip count⟩
  · intro unlike
    have chosen := functionFor_of_append (Function.selectorOf_encodeCall encoded) placed unlike
    have rendered := renderCall_of_decodeCall chosen read
    rw [named] at rendered
    exact ⟨chosen, rendered⟩

/-- Another function of the same name and a copy of the same function stand behind the one that is meant. -/
theorem encodeCall_reads_back_overloaded :
    let pay : Function := ⟨"pay", [⟨"mark", .fixedBytes 2⟩, ⟨"notes", .array .bool⟩], []⟩
    let shop : Interface := { name := "Shop", functions := [pay, ⟨"pay", [], []⟩, pay] }
    let payload : Bytes := 7 :: List.replicate 31 0 ++ bytesOf 32 64 ++ bytesOf 32 2 ++ bytesOf 32 1 ++ bytesOf 32 0
    let data := pay.selector.toList ++ payload
    let given : List AbiValue := [.fixedBytes [7, 0], .array [.bool true, .bool false]]
    shop.encodeCall "pay" [.fixedBytes [7], .array [.bool true, .bool false]] = .ok data ∧
      pay.decodeCall data = .ok given ∧ shop.functionFor data = .ok pay ∧
      shop.renderCall data = .ok (shop.callText "pay" [⟨"mark", given[0]⟩, ⟨"notes", given[1]⟩]) := by
  intro pay shop payload data given
  have found : shop.function "pay" = .ok pay := rfl
  have written : encode pay.inputTypes [.fixedBytes [7], .array [.bool true, .bool false]] = .ok payload := by decide +kernel
  have made : shop.encodeCall "pay" [.fixedBytes [7], .array [.bool true, .bool false]] = .ok data := by
    rw [Interface.encodeCall, found, ok_bind]
    exact Function.encodeCall_eq_ok_iff.mpr ⟨payload, written, rfl⟩
  have short : data.length < UInt64.size := by
    have size : payload.length = 160 := by simp [payload, length_bytesOf]
    rw [List.length_append, pay.selector.length_toList, size]
    decide
  have narrow : ∀ function ∈ shop.functions, EveryAll Narrow function.inputTypes := by
    simp [shop, pay, Function.inputTypes, EveryAll, Every, Narrow]
  have roomy : ∀ function ∈ shop.functions, EveryAll Roomy function.inputTypes := by
    simp [shop, pay, Function.inputTypes, EveryAll, Every, Roomy, headWidth]
  obtain ⟨before, function, after, placed, named, first, -, read, -, -, chosen⟩ :=
    @encodeCall_reads_back shop "pay" _ data Bytes narrow roomy made short
  -- The first function of the list has the name, so none stands in front of it.
  cases before with
  | cons head rest =>
    obtain ⟨rfl, -⟩ := List.cons.inj placed
    exact absurd rfl (first pay List.mem_cons_self)
  | nil =>
    obtain ⟨rfl, -⟩ := List.cons.inj placed
    obtain ⟨led, shown⟩ := chosen (List.forall_mem_nil _)
    exact ⟨made, read, led, shown⟩

end Interface

end ChainScript
