import ChainScript.Chain.Runner

/-! Operations as data, so that a run can consist of many of them. Each has a runner of its own, with its own
connection and options; the chain and the total of gas are those of the run. -/

namespace ChainScript

inductive Operation where
  /-- Calls a method of a contract. -/
  | invoke (transaction : Transaction) (interface : Interface) (method : String) (reporter : Reporter)
  | transfer (sender recipient : Address) (value : Word)
  | deploy (sender : Address) (artifact : Artifact) (arguments : List AbiValue)

/-- The data that a call returns, or the address of a new contract. -/
abbrev Returned := Bytes ⊕ Address

/-- An operation for a runner. -/
structure Task (State : Type) where
  runner : Runner State
  operation : Operation

namespace Task

variable {State : Type}

def perform (task : Task State) : StateM (Run State) (Outcome Returned) :=
  match task.operation with
  | .invoke transaction interface method reporter => do
    let outcome ← task.runner.invoke transaction interface method reporter
    return outcome.map .inl
  | .transfer sender recipient value => do
    let outcome ← task.runner.transfer sender recipient value
    return outcome.map .inl
  | .deploy sender artifact arguments => do
    let outcome ← task.runner.deploy sender artifact arguments
    return outcome.map .inr

/-- Performs tasks one after another. -/
def performAll (tasks : List (Task State)) : StateM (Run State) (List (Outcome Returned)) :=
  tasks.mapM perform

end Task

end ChainScript
