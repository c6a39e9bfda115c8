import ChainScript.Proofs.AbiSoundness
import ChainScript.Proofs.FirstMatch
import ChainScript.Proofs.RunnerPaths

/-! Call data read in two ways: for a method, whose function is found by name and whose selector is checked, and for
itself, where the function is found by the selector. Where neither names nor selectors repeat, both find the same
function, and they give the same arguments. -/

namespace ChainScript
open Abi

theorem Function.selectorOf_eq_ok_iff {data : Bytes} {selector : Selector} :
    Function.selectorOf data = .ok selector ↔ data.take 4 = selector.toList := by
  obtain ⟨bytes, size⟩ := selector
  rw [selectorOf, Octets.ofList?]
  split
  next found whole =>
    split at whole
    next => cases whole; simp
    next => cases whole
  next whole =>
    split at whole
    next => cases whole
    next short =>
      have differs : data.take 4 ≠ bytes := fun same => short (same ▸ size)
      simpa using differs

section
variable {function : Function} {data : Bytes} {values : List AbiValue}

/-- Call data holds arguments for a function if its selector is in front and the rest can be read. -/
theorem Function.decodeCall_eq_ok_iff :
    function.decodeCall data = .ok values ↔
      Function.selectorOf data = .ok function.selector ∧ decode function.inputTypes (data.drop 4) = .ok values := by
  rw [decodeCall, bind_eq_ok]
  constructor
  · rintro ⟨actual, selected, read⟩
    split at read
    next same => exact ⟨same ▸ selected, mapError_eq_ok.mp read⟩
    next => cases read
  · rintro ⟨selected, read⟩
    exact ⟨function.selector, selected, by rw [if_pos rfl]; exact mapError_eq_ok.mpr read⟩

theorem Function.length_of_decodeCall (read : function.decodeCall data = .ok values) :
    values.length = function.inputs.length := by
  rw [← (exactAll_of_decode (decodeCall_eq_ok_iff.mp read).2).length_eq, inputTypes, List.length_map]

end

namespace NamedValue

variable {parameters : List Parameter} {values : List AbiValue}

theorem names_zip (count : values.length = parameters.length) :
    (zip parameters values).map (·.name) = parameters.map (·.name) := by
  have long : parameters.length ≤ values.length := Nat.le_of_eq count.symm
  calc (zip parameters values).map (·.name)
      = ((parameters.zip values).map Prod.fst).map (·.name) := by
        rw [zip, ← List.map_uncurry_zip_eq_zipWith, List.map_map, List.map_map]
        rfl
    _ = parameters.map (·.name) := by rw [List.map_fst_zip long]

theorem values_zip (count : values.length = parameters.length) : (zip parameters values).map (·.value) = values := by
  have long : values.length ≤ parameters.length := Nat.le_of_eq count
  calc (zip parameters values).map (·.value)
      = (parameters.zip values).map Prod.snd := by
        rw [zip, ← List.map_uncurry_zip_eq_zipWith, List.map_map]
        rfl
    _ = values := List.map_snd_zip long

end NamedValue

namespace Interface

variable {interface : Interface} {method : String} {function : Function} {data : Bytes} {values : List AbiValue}

theorem function_eq_ok_iff :
    interface.function method = .ok function ↔ interface.functions.find? (·.name = method) = some function := by
  rw [Interface.function]
  cases interface.functions.find? (·.name = method) <;> simp

theorem functionFor_of_selectorOf {selector : Selector} (selected : Function.selectorOf data = .ok selector)
    (found : interface.functions.find? (·.selector = selector) = some function) :
    interface.functionFor data = .ok function := by
  rw [functionFor, selected, ok_bind, found]
  rfl

theorem argumentsOf_of_decodeCall (found : interface.function method = .ok function)
    (read : function.decodeCall data = .ok values) :
    interface.argumentsOf method data = .ok (NamedValue.zip function.inputs values) := by
  rw [argumentsOf, found, ok_bind, read, ok_bind]
  rfl

theorem decodeCall_of_argumentsOf {arguments : List NamedValue}
    (read : interface.argumentsOf method data = .ok arguments) :
    ∃ function values, interface.function method = .ok function ∧ function.decodeCall data = .ok values := by
  obtain ⟨function, found, rest⟩ := bind_eq_ok.mp read
  obtain ⟨values, decoded, -⟩ := bind_eq_ok.mp rest
  exact ⟨function, values, found, decoded⟩

/-- A call as text: contract and method, and one argument a line. -/
def callText (interface : Interface) (method : String) (arguments : List NamedValue) : String :=
  interface.name ++ "." ++ method ++ "(\n\t" ++ "\n\t".intercalate (arguments.map (·.toString)) ++ "\n)"

theorem renderCall_of_decodeCall (found : interface.functionFor data = .ok function)
    (read : function.decodeCall data = .ok values) :
    interface.renderCall data = .ok (interface.callText function.name (NamedValue.zip function.inputs values)) := by
  rw [renderCall, found, ok_bind, read, ok_bind]
  rfl

theorem decodeCall_of_renderCall {text : String} (found : interface.functionFor data = .ok function)
    (rendered : interface.renderCall data = .ok text) : ∃ values, function.decodeCall data = .ok values := by
  rw [renderCall, found, ok_bind] at rendered
  obtain ⟨values, read, -⟩ := bind_eq_ok.mp rendered
  exact ⟨values, read⟩

end Interface

namespace Outcome

variable {Value : Type} {interface : Interface} {method : String} {function : Function} {data : Bytes}
  {values : List AbiValue}

theorem arguments_of_decodeCall (found : interface.function method = .ok function)
    (read : function.decodeCall data = .ok values) (outcome : Outcome Value) :
    (outcome.withCall interface method data).arguments = NamedValue.zip function.inputs values := by
  rw [withCall_eq, Interface.argumentsOf_of_decodeCall found read]

theorem arguments_of_unread (outcome : Outcome Value)
    (unread : ∀ arguments, interface.argumentsOf method data ≠ .ok arguments) :
    (outcome.withCall interface method data).arguments = outcome.arguments := by
  rw [withCall_eq]
  cases read : interface.argumentsOf method data with
  | ok arguments => exact absurd read (unread arguments)
  | error fault => rfl

end Outcome

namespace Interface

/-- No two functions share a name, and no two share a selector. -/
structure Unambiguous (interface : Interface) : Prop where
  names : (interface.functions.map (·.name)).Nodup
  selectors : (interface.functions.map (·.selector)).Nodup

variable {interface : Interface} {function : Function} {data : Bytes} {values : List AbiValue}

theorem Unambiguous.function_eq (unambiguous : interface.Unambiguous) (declared : function ∈ interface.functions) :
    interface.function function.name = .ok function := by
  have exclusive : Exclusive (·.name = function.name) interface.functions :=
    .of_keys unambiguous.names fun _ => of_decide_eq_true
  exact function_eq_ok_iff.mpr (exclusive.find?_eq_some_iff.mpr ⟨declared, decide_eq_true rfl⟩)

theorem Unambiguous.functionFor_eq (unambiguous : interface.Unambiguous) (declared : function ∈ interface.functions)
    (read : function.decodeCall data = .ok values) : interface.functionFor data = .ok function := by
  have exclusive : Exclusive (·.selector = function.selector) interface.functions :=
    .of_keys unambiguous.selectors fun _ => of_decide_eq_true
  exact functionFor_of_selectorOf (Function.decodeCall_eq_ok_iff.mp read).1
    (exclusive.find?_eq_some_iff.mpr ⟨declared, decide_eq_true rfl⟩)

/-- Where neither names nor selectors repeat, call data can be read for a function exactly if the selector leads to that
function and the call can be shown. Then an outcome gets one argument for each input of the function, in order, under
the name of the input, and the call is shown with just these arguments. A new outcome gets no arguments from any other
call, and but for method and arguments every outcome stays as it was. -/
theorem callReaders_agree {Value : Type} (unambiguous : interface.Unambiguous) (data : Bytes) :
    (∀ function ∈ interface.functions,
      ((∃ values, function.decodeCall data = .ok values) ↔
        interface.functionFor data = .ok function ∧ ∃ text, interface.renderCall data = .ok text) ∧
      ∀ values, function.decodeCall data = .ok values → ∀ outcome : Outcome Value,
        let arguments := (outcome.withCall interface function.name data).arguments
        arguments.map (·.name) = function.inputs.map (·.name) ∧ arguments.map (·.value) = values ∧
          interface.renderCall data = .ok (interface.callText function.name arguments)) ∧
    (∀ method, (∀ function ∈ interface.functions, function.name = method →
        ∀ values, function.decodeCall data ≠ .ok values) →
      ∀ value receipt error reporter,
        ((Outcome.make value receipt error reporter : Outcome Value).withCall interface method data).arguments = []) ∧
    ∀ method (outcome : Outcome Value),
      let called := outcome.withCall interface method data
      called.method = some method ∧ { called with method := outcome.method, arguments := outcome.arguments } = outcome := by
  refine ⟨fun function declared => ⟨⟨?_, ?_⟩, ?_⟩, ?_, ?_⟩
  · rintro ⟨values, read⟩
    have found := unambiguous.functionFor_eq declared read
    exact ⟨found, _, renderCall_of_decodeCall found read⟩
  · rintro ⟨found, text, rendered⟩
    exact decodeCall_of_renderCall found rendered
  · intro values read outcome arguments
    have given : arguments = NamedValue.zip function.inputs values :=
      Outcome.arguments_of_decodeCall (unambiguous.function_eq declared) read outcome
    have count := Function.length_of_decodeCall read
    rw [given]
    exact ⟨NamedValue.names_zip count, NamedValue.values_zip count,
      renderCall_of_decodeCall (unambiguous.functionFor_eq declared read) read⟩
  · intro method unread value receipt error reporter
    apply Outcome.arguments_of_unread
    intro arguments read
    obtain ⟨function, values, found, decoded⟩ := decodeCall_of_argumentsOf read
    have chosen := function_eq_ok_iff.mp found
    have named : function.name = method := by simpa using List.find?_some chosen
    exact unread function (List.mem_of_find?_eq_some chosen) named values decoded
  · intro method outcome called
    have made : called = _ := Outcome.withCall_eq outcome interface method data
    rw [made]
    exact ⟨rfl, rfl⟩

/-- A call is found, shown and taken apart; no method but its own finds arguments in it. -/
theorem callReaders_agree_pay :
    let pay : Function := ⟨"pay", [⟨"gift", .bool⟩, ⟨"note", .bytes⟩], []⟩
    let shop : Interface := { name := "Shop", functions := [pay] }
    let data := pay.selector.toList ++ (bytesOf 32 1 ++ bytesOf 32 64 ++ padded [1, 2])
    let outcome : Outcome Bytes := .make none none none .silent
    let arguments := (outcome.withCall shop "pay" data).arguments
    shop.functionFor data = .ok pay ∧ arguments.map (·.name) = ["gift", "note"] ∧
      arguments.map (·.value) = [.bool true, .bytes [1, 2]] ∧
      shop.renderCall data = .ok (shop.callText "pay" arguments) ∧
      (outcome.withCall shop "refund" data).arguments = [] ∧
      (outcome.withCall shop "refund" data).method = some "refund" := by
  intro pay shop data outcome arguments
  have unambiguous : shop.Unambiguous := ⟨List.pairwise_singleton _ _, List.pairwise_singleton _ _⟩
  have selected : Function.selectorOf data = .ok pay.selector :=
    Function.selectorOf_eq_ok_iff.mpr (List.take_left' pay.selector.length_toList)
  have payload : data.drop 4 = bytesOf 32 1 ++ bytesOf 32 64 ++ padded [1, 2] :=
    List.drop_left' pay.selector.length_toList
  have read : pay.decodeCall data = .ok [.bool true, .bytes [1, 2]] := by
    refine Function.decodeCall_eq_ok_iff.mpr ⟨selected, ?_⟩
    rw [payload]
    cbv
  obtain ⟨calls, others, framed⟩ := @callReaders_agree shop Bytes unambiguous data
  obtain ⟨agreed, given⟩ := calls pay List.mem_cons_self
  obtain ⟨names, values, shown⟩ := given _ read outcome
  refine ⟨(agreed.mp ⟨_, read⟩).1, names, values, shown, others "refund" ?_ none none none .silent,
    (framed "refund" outcome).1⟩
  intro function declared named
  have strange : pay.name ≠ "refund" := by decide
  rw [List.mem_singleton.mp declared] at named
  exact absurd named strange

end Interface

end ChainScript
