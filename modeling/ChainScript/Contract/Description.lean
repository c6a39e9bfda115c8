import ChainScript.Json.Parser
import ChainScript.Abi.TypeText
import ChainScript.Contract.Interface

/-! Interfaces and artifacts described in JSON. A description is first read as a list of items with named
parameters; the types of all parameters are read after that. -/

namespace ChainScript

/-- A parameter as it is described. A tuple has its members as components. -/
inductive ParameterDescription where
  | mk (name kind : String) (components : List ParameterDescription)

/-- An entry of an interface as it is described. -/
structure ItemDescription where
  kind : String
  name : String
  inputs : List ParameterDescription
  outputs : List ParameterDescription

/-- How deep lists and objects may stand in one another. -/
def Json.maxLevels : Nat := 127

namespace Json

/-- A field that must be a text. -/
def requiredText? (field : Option Json) : Option String :=
  field >>= text?

/-- A field that must be a text if it is there. -/
def textOr? (default : String) : Option Json → Option String
  | none => some default
  | some value => value.text?

end Json

namespace ParameterDescription

/-- The parameter that a document describes, with at most `levels` lists and objects inside one another. -/
def ofJson? : (levels : Nat) → Json → Option ParameterDescription
  | 0, _ => none
  | 1, document => do
    match ← document.fields? ["name", "type", "components"] with
    | [name, kind, none] => return mk (← Json.textOr? "" name) (← Json.requiredText? kind) []
    | _ => none
  | levels + 2, document => do
    match ← document.fields? ["name", "type", "components"] with
    | [name, kind, components] =>
      let members ← match components with
        | none => some []
        | some (.list items) => items.mapM (ofJson? levels)
        | some _ => none
      return mk (← Json.textOr? "" name) (← Json.requiredText? kind) members
    | _ => none

mutual
/-- The type of a parameter. A tuple is put together as text from the types of its components, and what
follows the word `tuple` follows the closing parenthesis. -/
def type : ParameterDescription → Except AbiError AbiType
  | mk _ kind components =>
    match AbiType.afterWord? "tuple" kind.toList with
    | none => AbiType.ofString kind
    | some suffix => do
      let members ← types components
      AbiType.ofString ((AbiType.tuple members).toString ++ String.ofList suffix)

def types : List ParameterDescription → Except AbiError (List AbiType)
  | [] => .ok []
  | description :: rest => do
    let first ← description.type
    let others ← types rest
    return first :: others
end

def name : ParameterDescription → String
  | mk name _ _ => name

def toParameter (description : ParameterDescription) : Except AbiError Parameter := do
  let type ← description.type
  return ⟨description.name, type⟩

end ParameterDescription

namespace ItemDescription

/-- A list of parameters, which may be missing. -/
def parameters? (levels : Nat) : Option Json → Option (List ParameterDescription)
  | none => some []
  | some (.list items) => items.mapM (ParameterDescription.ofJson? (levels - 1))
  | some _ => none

/-- The item that a document describes. An item without a kind is a function. -/
def ofJson? (levels : Nat) (document : Json) : Option ItemDescription := do
  match ← document.fields? ["type", "name", "inputs", "outputs"] with
  | [kind, name, inputs, outputs] =>
    return {
      kind := ← Json.textOr? "function" kind
      name := ← Json.textOr? "" name
      inputs := ← parameters? (levels - 1) inputs
      outputs := ← parameters? (levels - 1) outputs }
  | _ => none

/-- The items that a document lists. -/
def listOfJson? : Json → Option (List ItemDescription)
  | .list items => items.mapM (ofJson? (Json.maxLevels - 1))
  | _ => none

end ItemDescription

namespace Interface

/-- Takes in one item. The last constructor counts, and items other than constructors and functions add
nothing; their inputs are looked at nevertheless. -/
def addItem (interface : Interface) (item : ItemDescription) : Except AbiError Interface := do
  let inputs ← item.inputs.mapM (·.toParameter)
  if item.kind = "constructor" then return { interface with constructor := inputs }
  else if item.kind = "function" then
    let outputs ← item.outputs.mapM (·.toParameter)
    return interface.add ⟨item.name, inputs, outputs⟩
  else return interface

def ofItems (name : String) (items : List ItemDescription) : Except AbiError Interface :=
  items.foldlM addItem { name := name }

def ofDocument (name : String) (document : Option Json) : Except AbiError Interface :=
  match document >>= ItemDescription.listOfJson? with
  | some items => ofItems name items
  | none => .error (.description .malformed)

/-- The interface that a text describes. -/
def ofJson (name text : String) : Except AbiError Interface :=
  ofDocument name (Json.ofString? text)

end Interface

/-- The bytes that digits spell, or the first fault in them. -/
def bytesOfDigits (digits : Bytes) (index : Nat) : Except HexFault Bytes :=
  match digits with
  | [] => .ok []
  | [_] => .error .oddLength
  | high :: low :: rest =>
    match Text.hexValue? (Char.ofNat high.toNat), Text.hexValue? (Char.ofNat low.toNat) with
    | some highValue, some lowValue => do
      let bytes ← bytesOfDigits rest (index + 2)
      return UInt8.ofNat (16 * highValue + lowValue) :: bytes
    | none, _ => .error (.badDigit high index)
    | _, none => .error (.badDigit low (index + 1))

/-- Drops the mark `0x` as often as it stands in front. -/
def dropHexMarks : List Char → List Char
  | '0' :: 'x' :: rest => dropHexMarks rest
  | digits => digits

/-- The bytes of a bytecode in hexadecimal. -/
def bytecodeOf (text : String) : Except HexFault Bytes :=
  let digits := Text.utf8 (String.ofList (dropHexMarks text.toList))
  if digits.length % 2 = 1 then .error .oddLength else bytesOfDigits digits 0

namespace Artifact

/-- The name, the interface document and the bytecode of an artifact. -/
def fieldsOfJson? (document : Json) : Option (String × Json × String) := do
  match ← document.fields? ["contractName", "abi", "bytecode"] with
  | [name, some abi, bytecode] =>
    return (← Json.requiredText? name, ← abi.plain? (Json.maxLevels - 1), ← Json.textOr? "" bytecode)
  | _ => none

/-- The artifact that a text describes. -/
def ofJson (text : String) : Except AbiError Artifact := do
  match Json.ofString? text >>= fieldsOfJson? with
  | none => throw (.description .malformed)
  | some (name, abi, bytecode) =>
    let interface ← Interface.ofDocument name (some abi)
    let bytes ← (bytecodeOf bytecode).mapError fun fault => .description (.bytecode fault)
    return ⟨interface, bytes⟩

end Artifact

end ChainScript
