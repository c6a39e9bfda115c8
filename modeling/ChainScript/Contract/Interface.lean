import ChainScript.Abi.Signature
import ChainScript.Abi.Encode
import ChainScript.Abi.Decode

/-! What a contract offers: its constructor and its functions, which are found by name or by the four bytes
that name them in call data. Names and these bytes may repeat; the first function wins. -/

namespace ChainScript

/-- A named value that a function takes or gives. -/
structure Parameter where
  name : String
  type : AbiType
deriving DecidableEq

structure Function where
  name : String
  inputs : List Parameter
  outputs : List Parameter
deriving DecidableEq

namespace Function

def inputTypes (function : Function) : List AbiType :=
  function.inputs.map (·.type)

def signature (function : Function) : String :=
  signatureOf function.name function.inputTypes

def selector (function : Function) : Selector :=
  Selector.ofSignature function.signature

/-- The selector that call data starts with. -/
def selectorOf (data : Bytes) : Except AbiError Selector :=
  match Octets.ofList? 4 (data.take 4) with
  | some selector => .ok selector
  | none => .error (.decoding .noSelector)

/-- The arguments in call data, which has to start with the selector of the function. -/
def decodeCall (function : Function) (data : Bytes) : Except AbiError (List AbiValue) := do
  let actual ← selectorOf data
  if actual = function.selector then (Abi.decode function.inputTypes (data.drop 4)).mapError .decoding
  else throw (.selectorMismatch function.name function.selector actual)

/-- The call data for these arguments. -/
def encodeCall (function : Function) (arguments : List AbiValue) : Except AbiError Bytes := do
  let encoded ← (Abi.encode function.inputTypes arguments).mapError .encoding
  return function.selector.toList ++ encoded

end Function

/-- An argument under the name of its parameter. -/
structure NamedValue where
  name : String
  value : AbiValue
deriving DecidableEq

namespace NamedValue

/-- Values under the names of the parameters they are for. -/
def zip (parameters : List Parameter) (values : List AbiValue) : List NamedValue :=
  parameters.zipWith (fun parameter value => ⟨parameter.name, value⟩) values

def toString (argument : NamedValue) : String :=
  argument.name ++ "=" ++ argument.value.toString

end NamedValue

structure Interface where
  name : String
  constructor : List Parameter := []
  functions : List Function := []
deriving DecidableEq

namespace Interface

def add (interface : Interface) (function : Function) : Interface :=
  { interface with functions := interface.functions ++ [function] }

/-- The bytes of constructor arguments, which follow the init code. -/
def encodeConstructor (interface : Interface) (arguments : List AbiValue) : Except AbiError Bytes :=
  (Abi.encode (interface.constructor.map (·.type)) arguments).mapError .encoding

/-- The first function of a name. -/
def function (interface : Interface) (name : String) : Except AbiError Function :=
  match interface.functions.find? (·.name = name) with
  | some function => .ok function
  | none => .error (.unknownFunction name)

/-- The first function whose selector call data starts with. -/
def functionFor (interface : Interface) (data : Bytes) : Except AbiError Function := do
  let selector ← Function.selectorOf data
  match interface.functions.find? (·.selector = selector) with
  | some function => return function
  | none => throw (.unknownFunction selector.toString)

/-- Call data for the first function of a name. -/
def encodeCall (interface : Interface) (name : String) (arguments : List AbiValue) : Except AbiError Bytes := do
  let function ← interface.function name
  function.encodeCall arguments

/-- The named arguments that call data holds for the first function of a name. -/
def argumentsOf (interface : Interface) (name : String) (data : Bytes) :
    Except AbiError (List NamedValue) := do
  let function ← interface.function name
  let values ← function.decodeCall data
  return NamedValue.zip function.inputs values

/-- Call data as text: the function that it names, and one argument a line. -/
def renderCall (interface : Interface) (data : Bytes) : Except AbiError String := do
  let function ← interface.functionFor data
  let values ← function.decodeCall data
  let arguments := (NamedValue.zip function.inputs values).map (·.toString)
  return interface.name ++ "." ++ function.name ++ "(\n\t" ++ "\n\t".intercalate arguments ++ "\n)"

end Interface

/-- A compiled contract. -/
structure Artifact where
  interface : Interface
  bytecode : Bytes
deriving DecidableEq

end ChainScript
