import ChainScript.Abi.Decode
import ChainScript.Abi.Signature
import ChainScript.Chain.Transaction

/-! Contracts report failures as log entries that hold three codes: an error, the place where it arose, and a
detail. Reporters give names to the codes. -/

namespace ChainScript

/-- Names for codes. -/
structure Reporter where
  /-- How the reporter presents itself in diagnostics. -/
  label : String
  error? : UInt64 → Option String
  info? : UInt64 → Option String
  /-- The name of a detail, which may depend on the error it belongs to. -/
  detail : (error detail : UInt64) → String

/-- The reporter that knows no code. -/
def Reporter.silent : Reporter where
  label := "NoErrorReporter"
  error? _ := none
  info? _ := none
  detail _ detail := s!"unknown detail={detail}"

instance : Inhabited Reporter := ⟨.silent⟩

/-- Names in the order of their codes. An error of the rejecting name passes on the error of another contract
as its detail, which is then looked up there. -/
structure CodeTable where
  errors : List String := []
  infos : List String := []
  rejection : Option (String × Reporter) := none

namespace CodeTable

def inspect (table : CodeTable) : String :=
  let rejection := match table.rejection with
    | some (name, _) => "Some(" ++ Text.quoted name ++ ")"
    | none => "None"
  "TableErrorReporter \x7b errors: " ++ toString table.errors.length ++ ", infos: " ++
    toString table.infos.length ++ ", rejection: " ++ rejection ++ " \x7d"

def error? (table : CodeTable) (code : UInt64) : Option String :=
  table.errors[code.toNat]?

/-- The name that the other contract has for a detail, if the error rejects. -/
def delegated? (table : CodeTable) (error detail : UInt64) : Option String := do
  let (name, delegate) ← table.rejection
  if table.error? error = some name then delegate.error? detail else none

def reporter (table : CodeTable) : Reporter where
  label := table.inspect
  error? := table.error?
  info? code := table.infos[code.toNat]?
  detail error detail := (table.delegated? error detail).getD (toString detail)

end CodeTable

structure Failure where
  error : String
  info : String
  detail : String
deriving DecidableEq

namespace Failure

/-- The signature of the entries that report failures. -/
def signature : String := "Failure(uint256,uint256,uint256)"

def topic : Hash := keccak256 (Text.utf8 signature)

/-- The failure with these codes. Codes of more than 64 bits have no names. -/
def ofCodes (reporter : Reporter) (error info detail : Word) : Failure where
  error := (error.toUInt64? >>= reporter.error?).getD ("unknown error=" ++ error.toDecimal)
  info := (info.toUInt64? >>= reporter.info?).getD ("unknown info=" ++ info.toDecimal)
  detail :=
    match error.toUInt64?, detail.toUInt64? with
    | some error, some detail => reporter.detail error detail
    | _, _ => "unknown detail=" ++ detail.toDecimal

/-- The failure that the data of an entry holds. -/
def ofData? (reporter : Reporter) (data : Bytes) : Option Failure :=
  match Abi.decode [.uint 256, .uint 256, .uint 256] data with
  | .ok [.uint error, .uint info, .uint detail] => some (ofCodes reporter error info detail)
  | _ => none

/-- The failures among the entries of a receipt, in order. Entries with unreadable data are left out. -/
def ofReceipt (reporter : Reporter) (receipt : Receipt) : List Failure :=
  (receipt.entriesWith topic).filterMap fun entry => ofData? reporter entry.data

def toString (failure : Failure) : String :=
  s!"Failure<error={failure.error},info={failure.info},detail={failure.detail}>"

end Failure

end ChainScript
