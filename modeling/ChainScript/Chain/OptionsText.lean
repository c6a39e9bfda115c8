import ChainScript.Chain.Options
import ChainScript.Toml.Parser
import ChainScript.Text.Utf8

/-! Options as a TOML document. Numbers in such a document are signed, so options with a larger number cannot
be written down. -/

namespace ChainScript

/-- Why options cannot be read or written. -/
inductive OptionsFault where
  /-- There is no file, or it holds no text. -/
  | unreadable
  | malformed
  /-- A number that is no signed integer of 64 bits. -/
  | tooLarge
deriving DecidableEq

namespace Options

def numberOf? : Toml → Option UInt64
  | .integer value => if 0 ≤ value then some (UInt64.ofNat value.toNat) else none
  | _ => none

def flagOf? : Toml → Option Bool
  | .bool set => some set
  | _ => none

/-- The value of a member, which may be missing but not have another form. -/
def memberOr? {Value : Type} (name : String) (read : Toml → Option Value) (default : Value)
    (members : Toml.Members) : Option Value :=
  match members.lookup name with
  | none => some default
  | some value => read value

/-- The options that a document holds; other members are passed over. -/
def ofMembers? (members : Toml.Members) : Option Options := do
  let defaults : Options := {}
  return {
    gasLimit := ← memberOr? "gas_limit" numberOf? defaults.gasLimit members
    gasPrice := ← memberOr? "gas_price" numberOf? defaults.gasPrice members
    totalGas := ← memberOr? "total_gas" (fun value => some <$> numberOf? value) none members
    dryRun := ← memberOr? "dry_run" flagOf? defaults.dryRun members }

def ofString (text : String) : Except OptionsFault Options :=
  match Toml.ofString? text >>= ofMembers? with
  | some options => .ok options
  | none => .error .malformed

/-- The options in a file, if there is one. -/
def ofFile (content : Option Bytes) : Except OptionsFault Options :=
  match content with
  | none => .error .unreadable
  | some bytes =>
    match Text.ofUtf8 bytes with
    | .ok text => ofString text
    | .error _ => .error .unreadable

/-- One line of the document. -/
def writeNumber (name : String) (value : UInt64) : Except OptionsFault String :=
  if value.toNat < Toml.integerBound then .ok (name ++ " = " ++ toString value ++ "\n") else .error .tooLarge

def toText (options : Options) : Except OptionsFault String := do
  let gasLimit ← writeNumber "gas_limit" options.gasLimit
  let gasPrice ← writeNumber "gas_price" options.gasPrice
  let totalGas ← match options.totalGas with
    | some total => writeNumber "total_gas" total
    | none => pure ""
  return gasLimit ++ gasPrice ++ totalGas ++ "dry_run = " ++ toString options.dryRun ++ "\n"

end Options

end ChainScript
