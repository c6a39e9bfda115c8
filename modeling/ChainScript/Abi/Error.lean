import ChainScript.Abi.Type
import ChainScript.Abi.Value
import ChainScript.Text.Quoted
import ChainScript.Text.Utf8

/-! Why contract data cannot be written or read. -/

namespace ChainScript

/-- Why bytes do not hold values of the types asked for. -/
inductive DecodeFault where
  /-- The bytes end before `needed`. -/
  | tooShort (needed available : Nat)
  /-- An offset or a count larger than the data. -/
  | outOfRange (value : Nat)
  | positionOverflow
  | wideFixedBytes (width : Nat)
  | notText (fault : Text.Utf8Fault)
  /-- Call data without the four bytes that name a function. -/
  | noSelector
deriving DecidableEq

def DecodeFault.message : DecodeFault → String
  | tooShort needed available => s!"insufficient data: need {needed} bytes, have {available}"
  | outOfRange value => s!"offset or length {value} out of range"
  | positionOverflow => "offset overflow"
  | wideFixedBytes width => s!"bytes{width} is wider than a word"
  | notText fault => s!"invalid utf-8: {fault.message}"
  | noSelector => "call data shorter than a selector"

/-- Why values do not fit the types they are written as. -/
inductive EncodeFault where
  | wrongCount (expected actual : Nat)
  | misfit (value : AbiValue) (type : AbiType)
deriving DecidableEq

def EncodeFault.message : EncodeFault → String
  | wrongCount expected actual => s!"expected {expected} values, got {actual}"
  | misfit value type => s!"value {value.toString} does not fit type {type.toString}"

/-- Why digits are no bytes. -/
inductive HexFault where
  | oddLength
  /-- The byte at `index` is no digit. -/
  | badDigit (byte : UInt8) (index : Nat)
deriving DecidableEq

def HexFault.message : HexFault → String
  | oddLength => "Odd number of digits"
  | badDigit byte index =>
    let shown := Text.quotedChar (Char.ofNat byte.toNat)
    s!"Invalid character {shown} at position {index}"

/-- Why a description in JSON is no interface or artifact. -/
inductive DescriptionFault where
  | malformed
  | bytecode (fault : HexFault)
deriving DecidableEq

def DescriptionFault.message : DescriptionFault → String
  | malformed => "not a description of the expected form"
  | bytecode fault => s!"bytecode: {fault.message}"

inductive AbiError where
  | decoding (fault : DecodeFault)
  | encoding (fault : EncodeFault)
  | unknownType (text : String)
  | unknownFunction (name : String)
  | selectorMismatch (function : String) (expected actual : Selector)
  | description (fault : DescriptionFault)
deriving DecidableEq

def AbiError.message : AbiError → String
  | decoding fault => s!"abi decode error: {fault.message}"
  | encoding fault => s!"abi encode error: {fault.message}"
  | unknownType text => s!"unknown abi type: {text}"
  | unknownFunction name => s!"unknown function: {name}"
  | selectorMismatch function expected actual =>
    s!"selector mismatch for {function}: expected {expected.toString}, got {actual.toString}"
  | description fault => s!"invalid abi json: {fault.message}"

end ChainScript
