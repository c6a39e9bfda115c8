import Mathlib.Control.Monad.Basic
import ChainScript.Contract.Description
import ChainScript.Proofs.ExceptSteps

/-! Interfaces from the items that describe them. Functions are kept in order and the last constructor counts; all other
items add nothing. But their inputs are read like those of functions, so one type that cannot be read spoils the whole
interface, whichever item it is found in. -/

namespace ChainScript

/-- Values that are read one by one, and those of them that are kept. -/
private theorem mapM_filter {α β : Type} {f : α → Option β} {keep : β → Bool} {entries : List α} {values : List β}
    (read : entries.mapM f = some values) :
    (entries.filter fun entry => (f entry).any keep).mapM f = some (values.filter keep) := by
  induction entries generalizing values with
  | nil => cases read; rfl
  | cons entry rest ih =>
    rw [List.mapM_cons] at read
    obtain ⟨value, first, read⟩ := Option.bind_eq_some_iff.mp read
    obtain ⟨others, following, made⟩ := Option.bind_eq_some_iff.mp read
    cases made
    cases kept : keep value with
    | true =>
      rw [List.filter_cons, List.filter_cons, first, Option.any_some, kept, if_pos rfl, if_pos rfl, List.mapM_cons, first,
        ih following]
      rfl
    | false =>
      rw [List.filter_cons, List.filter_cons, first, Option.any_some, kept, if_neg Bool.false_ne_true,
        if_neg Bool.false_ne_true]
      exact ih following

namespace ItemDescription

/-- Functions and constructors, which an interface is made of. -/
def Declares (item : ItemDescription) : Prop :=
  item.kind = "function" ∨ item.kind = "constructor"

instance : DecidablePred Declares :=
  fun item => inferInstanceAs (Decidable (item.kind = "function" ∨ item.kind = "constructor"))

def readInputs (item : ItemDescription) : Except AbiError (List Parameter) :=
  item.inputs.mapM (·.toParameter)

def readFunction (item : ItemDescription) : Except AbiError Function := do
  let inputs ← item.readInputs
  let outputs ← item.outputs.mapM (·.toParameter)
  return ⟨item.name, inputs, outputs⟩

def Readable (item : ItemDescription) : Prop :=
  ∃ inputs, item.readInputs = .ok inputs

/-- The functions among the items, in order. -/
def functions (items : List ItemDescription) : Except AbiError (List Function) :=
  (items.filter (·.kind = "function")).mapM (·.readFunction)

/-- The inputs of every constructor among the items, in order. -/
def constructors (items : List ItemDescription) : Except AbiError (List (List Parameter)) :=
  (items.filter (·.kind = "constructor")).mapM (·.readInputs)

section
variable {item : ItemDescription} {items : List ItemDescription}

theorem functions_cons (kind : item.kind = "function") :
    functions (item :: items) = (item :: items.filter (·.kind = "function")).mapM (·.readFunction) := by
  rw [functions, List.filter_cons, if_pos (decide_eq_true kind)]

theorem functions_cons_of_ne (kind : item.kind ≠ "function") : functions (item :: items) = functions items := by
  rw [functions, List.filter_cons, if_neg (by simpa using kind), functions]

theorem constructors_cons (kind : item.kind = "constructor") :
    constructors (item :: items) = (item :: items.filter (·.kind = "constructor")).mapM (·.readInputs) := by
  rw [constructors, List.filter_cons, if_pos (decide_eq_true kind)]

theorem constructors_cons_of_ne (kind : item.kind ≠ "constructor") :
    constructors (item :: items) = constructors items := by
  rw [constructors, List.filter_cons, if_neg (by simpa using kind), constructors]

end

/-- The entries of a description that describe functions and constructors. -/
def declarations (entries : List Json) : List Json :=
  entries.filter fun entry => (ofJson? (Json.maxLevels - 1) entry).any (·.Declares)

theorem listOfJson?_declarations {entries : List Json} {items : List ItemDescription}
    (described : listOfJson? (.list entries) = some items) :
    listOfJson? (.list (declarations entries)) = some (items.filter (·.Declares)) :=
  mapM_filter described

end ItemDescription

namespace Interface

variable {start interface : Interface} {item : ItemDescription} {items : List ItemDescription}

theorem addItem_function (kind : item.kind = "function") : start.addItem item = start.add <$> item.readFunction := by
  have other : ("function" = "constructor") = False := by decide
  simp only [addItem, ItemDescription.readFunction, ItemDescription.readInputs, kind, other, if_false, if_true, map_bind,
    map_pure]

theorem addItem_constructor (kind : item.kind = "constructor") :
    start.addItem item = (fun inputs => { start with constructor := inputs }) <$> item.readInputs := by
  simp only [addItem, ItemDescription.readInputs, kind, if_true, map_eq_pure_bind]

theorem addItem_other (other : ¬item.Declares) : start.addItem item = (fun _ => start) <$> item.readInputs := by
  obtain ⟨function, constructor⟩ := not_or.mp other
  simp only [addItem, ItemDescription.readInputs, function, constructor, if_false, map_eq_pure_bind]

/-- Items that declare nothing and whose inputs can be read may be left out. -/
theorem foldlM_declared (readable : ∀ item ∈ items, ¬item.Declares → item.Readable) :
    items.foldlM addItem start = (items.filter (·.Declares)).foldlM addItem start := by
  induction items generalizing start with
  | nil => rfl
  | cons item rest ih =>
    obtain ⟨own, others⟩ := List.forall_mem_cons.mp readable
    by_cases declares : item.Declares
    · rw [List.filter_cons, if_pos (decide_eq_true declares), List.foldlM_cons, List.foldlM_cons]
      congr 1
      funext next
      exact ih others
    · obtain ⟨inputs, read⟩ := own declares
      rw [List.filter_cons, if_neg (by simpa using declares), List.foldlM_cons, addItem_other declares, read, map_ok,
        ok_bind]
      exact ih others

/-- An item that declares nothing ends the reading if its inputs cannot be read. -/
theorem foldlM_unreadable {before after : List ItemDescription} {fault : AbiError} (other : ¬item.Declares)
    (unreadable : item.readInputs = .error fault) :
    (before ++ item :: after).foldlM addItem start = (before.foldlM addItem start >>= fun _ => .error fault) := by
  rw [List.foldlM_append]
  congr 1
  funext next
  rw [List.foldlM_cons, addItem_other other, unreadable, map_error, error_bind]

/-- The interface has, behind what is there at the start, what the items declare. -/
structure Collects (start : Interface) (items : List ItemDescription) (interface : Interface) : Prop where
  name : interface.name = start.name
  readable : ∀ item ∈ items, ¬item.Declares → item.Readable
  functions : ∃ added, ItemDescription.functions items = .ok added ∧ interface.functions = start.functions ++ added
  constructors : ∃ added, ItemDescription.constructors items = .ok added ∧
    interface.constructor = added.getLastD start.constructor

theorem collects_nil_iff : Collects start [] interface ↔ start = interface := by
  constructor
  · rintro ⟨name, -, ⟨functions, none, kept⟩, ⟨constructors, nothing, left⟩⟩
    obtain rfl : [] = functions := Except.ok.inj none
    obtain rfl : [] = constructors := Except.ok.inj nothing
    rw [List.append_nil] at kept
    cases start
    cases interface
    cases name
    cases kept
    cases left
    rfl
  · rintro rfl
    exact ⟨rfl, List.forall_mem_nil _, ⟨[], rfl, (List.append_nil _).symm⟩, ⟨[], rfl, rfl⟩⟩

theorem collects_function_iff (kind : item.kind = "function") :
    Collects start (item :: items) interface ↔
      ∃ function, item.readFunction = .ok function ∧ Collects (start.add function) items interface := by
  have other : item.kind ≠ "constructor" := by rw [kind]; decide
  constructor
  · rintro ⟨name, readable, ⟨functions, read, kept⟩, constructors⟩
    rw [ItemDescription.functions_cons kind] at read
    obtain ⟨own, others, first, following, rfl⟩ := mapM_cons_eq_ok.mp read
    rw [ItemDescription.constructors_cons_of_ne other] at constructors
    rw [List.append_cons] at kept
    exact ⟨own, first, name, (List.forall_mem_cons.mp readable).2, ⟨others, following, kept⟩, constructors⟩
  · rintro ⟨own, first, name, readable, ⟨others, following, kept⟩, constructors⟩
    rw [← ItemDescription.constructors_cons_of_ne other] at constructors
    refine ⟨name, List.forall_mem_cons.mpr ⟨fun other => absurd (.inl kind) other, readable⟩,
      ⟨own :: others, ?_, ?_⟩, constructors⟩
    · rw [ItemDescription.functions_cons kind]
      exact mapM_cons_eq_ok.mpr ⟨own, others, first, following, rfl⟩
    · rw [List.append_cons]
      exact kept

theorem collects_constructor_iff (kind : item.kind = "constructor") :
    Collects start (item :: items) interface ↔
      ∃ inputs, item.readInputs = .ok inputs ∧ Collects { start with constructor := inputs } items interface := by
  have other : item.kind ≠ "function" := by rw [kind]; decide
  constructor
  · rintro ⟨name, readable, functions, ⟨constructors, read, kept⟩⟩
    rw [ItemDescription.constructors_cons kind] at read
    obtain ⟨own, others, first, following, rfl⟩ := mapM_cons_eq_ok.mp read
    rw [ItemDescription.functions_cons_of_ne other] at functions
    rw [List.getLastD_cons] at kept
    exact ⟨own, first, name, (List.forall_mem_cons.mp readable).2, functions, ⟨others, following, kept⟩⟩
  · rintro ⟨own, first, name, readable, functions, ⟨others, following, kept⟩⟩
    rw [← ItemDescription.functions_cons_of_ne other] at functions
    refine ⟨name, List.forall_mem_cons.mpr ⟨fun other => absurd (.inr kind) other, readable⟩, functions,
      ⟨own :: others, ?_, ?_⟩⟩
    · rw [ItemDescription.constructors_cons kind]
      exact mapM_cons_eq_ok.mpr ⟨own, others, first, following, rfl⟩
    · rw [List.getLastD_cons]
      exact kept

theorem collects_other_iff (other : ¬item.Declares) :
    Collects start (item :: items) interface ↔ item.Readable ∧ Collects start items interface := by
  obtain ⟨function, constructor⟩ := not_or.mp other
  constructor
  · rintro ⟨name, readable, functions, constructors⟩
    rw [ItemDescription.functions_cons_of_ne function] at functions
    rw [ItemDescription.constructors_cons_of_ne constructor] at constructors
    obtain ⟨own, others⟩ := List.forall_mem_cons.mp readable
    exact ⟨own other, name, others, functions, constructors⟩
  · rintro ⟨own, name, others, functions, constructors⟩
    rw [← ItemDescription.functions_cons_of_ne function] at functions
    rw [← ItemDescription.constructors_cons_of_ne constructor] at constructors
    exact ⟨name, List.forall_mem_cons.mpr ⟨fun _ => own, others⟩, functions, constructors⟩

theorem foldlM_addItem_eq_ok_iff : items.foldlM addItem start = .ok interface ↔ Collects start items interface := by
  -- Whatever the first item declares is part of the start for the others.
  induction items generalizing start with
  | nil =>
    rw [collects_nil_iff, List.foldlM_nil]
    simp only [pure, Except.pure, Except.ok.injEq]
  | cons item rest ih =>
    by_cases declares : item.Declares
    · rcases declares with kind | kind
      · rw [List.foldlM_cons, addItem_function kind, bind_map_left, bind_eq_ok, collects_function_iff kind]
        simp only [ih]
      · rw [List.foldlM_cons, addItem_constructor kind, bind_map_left, bind_eq_ok, collects_constructor_iff kind]
        simp only [ih]
    · rw [List.foldlM_cons, addItem_other declares, bind_map_left, bind_eq_ok, collects_other_iff declares]
      simp only [ih, exists_and_right, ItemDescription.Readable]

theorem ofJson_eq_ofItems {name text : String} {entries : List Json} (written : Json.ofString? text = some (.list entries))
    (described : ItemDescription.listOfJson? (.list entries) = some items) : ofJson name text = ofItems name items := by
  rw [ofJson, ofDocument, written, Option.bind_eq_bind, Option.bind_some, described]

/-- What a description says besides functions and constructors makes no difference as long as all types in it can be
read, and the first such type that cannot be read is the fault of the whole description, unless another fault comes
before it. -/
theorem ofJson_declarations {name text shorter : String} {entries : List Json} {items : List ItemDescription}
    (written : Json.ofString? text = some (.list entries))
    (described : ItemDescription.listOfJson? (.list entries) = some items)
    (shortened : Json.ofString? shorter = some (.list (ItemDescription.declarations entries))) :
    ((∀ item ∈ items, ¬item.Declares → item.Readable) → ofJson name text = ofJson name shorter) ∧
    (∀ before other after fault, items = before ++ other :: after → ¬other.Declares →
      other.readInputs = .error fault → ofJson name text = (ofItems name before >>= fun _ => .error fault)) ∧
    ∀ interface, ofJson name text = .ok interface ↔
      interface.name = name ∧ (∀ item ∈ items, ¬item.Declares → item.Readable) ∧
      ItemDescription.functions items = .ok interface.functions ∧
      ∃ constructors, ItemDescription.constructors items = .ok constructors ∧
        interface.constructor = constructors.getLastD [] := by
  have whole : ofJson name text = ofItems name items := ofJson_eq_ofItems written described
  have short : ofJson name shorter = ofItems name (items.filter (·.Declares)) :=
    ofJson_eq_ofItems shortened (ItemDescription.listOfJson?_declarations described)
  refine ⟨fun readable => ?_, fun before other after fault parts declares unreadable => ?_, fun interface => ?_⟩
  · rw [whole, short]
    exact foldlM_declared readable
  · rw [whole, parts]
    exact foldlM_unreadable declares unreadable
  · rw [whole, ofItems, foldlM_addItem_eq_ok_iff]
    constructor
    · rintro ⟨same, readable, ⟨functions, read, kept⟩, constructors⟩
      rw [List.nil_append] at kept
      rw [kept]
      exact ⟨same, readable, read, constructors⟩
    · rintro ⟨same, readable, functions, constructors⟩
      exact ⟨same, readable, ⟨interface.functions, functions, (List.nil_append _).symm⟩, constructors⟩

private def rateEntry (kind name type : String) : Json :=
  .object [(some "type", .text (some kind)), (some "name", .text (some name)), (some "inputs", .list [
    .object [(some "name", .text (some "rate")), (some "type", .text (some type))]])]

private def rateItem (kind name type : String) : ItemDescription :=
  ⟨kind, name, [.mk "rate" type []], []⟩

/-- An event whose input has a known type may be left out. -/
theorem ofJson_declarations_rate :
    ofJson "Oracle" "[
        \x7b\"type\":\"event\",\"name\":\"Rate\",\"inputs\":[\x7b\"name\":\"rate\",\"type\":\"uint8\"\x7d]\x7d,
        \x7b\"type\":\"function\",\"name\":\"set\",\"inputs\":[\x7b\"name\":\"rate\",\"type\":\"bool\"\x7d]\x7d]" =
      ofJson "Oracle" "[
        \x7b\"type\":\"function\",\"name\":\"set\",\"inputs\":[\x7b\"name\":\"rate\",\"type\":\"bool\"\x7d]\x7d]" := by
  have kept : ItemDescription.declarations [rateEntry "event" "Rate" "uint8", rateEntry "function" "set" "bool"] =
      [rateEntry "function" "set" "bool"] := by rfl
  have readable : (rateItem "event" "Rate" "uint8").Readable := ⟨[⟨"rate", .uint 8⟩], by decide +kernel⟩
  refine (@ofJson_declarations "Oracle" _ _ [rateEntry "event" "Rate" "uint8", rateEntry "function" "set" "bool"]
    [rateItem "event" "Rate" "uint8", rateItem "function" "set" "bool"] (by cbv) (by rfl) (by rw [kept]; cbv)).1 ?_
  rintro item (_ | ⟨_, _ | ⟨_, nothing⟩⟩) other
  · exact readable
  · exact absurd (.inl rfl) other
  · cases nothing

/-- An event whose input has an unknown type is not left out: it is the fault of the whole description. -/
theorem ofJson_unknown_event :
    Json.ofString? "[\x7b\"type\":\"event\",\"name\":\"Rate\",
        \"inputs\":[\x7b\"name\":\"rate\",\"type\":\"fixed128x18\"\x7d]\x7d]" =
      some (.list [rateEntry "event" "Rate" "fixed128x18"]) ∧
    ItemDescription.declarations [rateEntry "event" "Rate" "fixed128x18"] = [] ∧
    ofJson "Oracle" "[\x7b\"type\":\"event\",\"name\":\"Rate\",
        \"inputs\":[\x7b\"name\":\"rate\",\"type\":\"fixed128x18\"\x7d]\x7d]" = .error (.unknownType "fixed128x18") ∧
    ofJson "Oracle" "[]" = .ok { name := "Oracle" } :=
  ⟨by cbv, by rfl, by decide +kernel, by decide +kernel⟩

end Interface

end ChainScript
