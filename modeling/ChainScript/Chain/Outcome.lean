import ChainScript.Chain.RunError
import ChainScript.Contract.Interface

/-! What one transaction came to: the error that ended it, the failures that its receipt reports, and the call
it made. It succeeded if there is neither error nor failure. -/

namespace ChainScript

structure Outcome (Value : Type) where
  value : Option Value
  receipt : Option Receipt
  error : Option RunError
  failures : List Failure
  method : Option String := none
  arguments : List NamedValue := []
  gasUsed : UInt64
deriving DecidableEq

namespace Outcome

variable {Value Other : Type}

/-- The outcome with the failures and the gas that its receipt tells of. -/
def make (value : Option Value) (receipt : Option Receipt) (error : Option RunError) (reporter : Reporter) :
    Outcome Value where
  value := value
  receipt := receipt
  error := error
  failures := match receipt with
    | some receipt => Failure.ofReceipt reporter receipt
    | none => []
  gasUsed := match receipt with
    | some receipt => receipt.gasUsed
    | none => 0

/-- Adds the call that was made. Arguments that cannot be read are left as they were. -/
def withCall (outcome : Outcome Value) (interface : Interface) (method : String) (data : Bytes) :
    Outcome Value :=
  let named := { outcome with method := some method }
  match interface.argumentsOf method data with
  | .ok arguments => { named with arguments := arguments }
  | .error _ => named

def succeeded (outcome : Outcome Value) : Bool :=
  outcome.error.isNone && outcome.failures.isEmpty

/-- The call as text. -/
def call (outcome : Outcome Value) : String :=
  match outcome.method with
  | some method =>
    "\"" ++ method ++ "(" ++ ",".intercalate (outcome.arguments.map (·.toString)) ++ ")\""
  | none => "unknown method"

/-- Another value in place of the one returned. -/
def map (change : Value → Other) (outcome : Outcome Value) : Outcome Other where
  value := outcome.value.map change
  receipt := outcome.receipt
  error := outcome.error
  failures := outcome.failures
  method := outcome.method
  arguments := outcome.arguments
  gasUsed := outcome.gasUsed

def toString (render : Value → String) (outcome : Outcome Value) : String :=
  let hash := match outcome.receipt with
    | some receipt => receipt.transactionHash.toString
    | none => ""
  let value := (outcome.value.map render).getD ""
  let error := (outcome.error.map (·.message)).getD "null"
  let failures := ",".intercalate (outcome.failures.map (·.toString))
  s!"Invocation<{outcome.call}, tx={hash}, value={value}, error={error}, failures={failures}>"

end Outcome

end ChainScript
