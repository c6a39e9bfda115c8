import ChainScript.Chain.Connection
import ChainScript.Chain.Options
import ChainScript.Chain.Outcome

/-! A runner carries out transactions over a connection and folds every reply into an outcome. A transaction
is called before it is sent, and it is sent only if the call went well; a dry run stops before anything
would change. -/

namespace ChainScript

/-- The state of a run: the chain behind the connection and the gas of all receipts so far. -/
structure Run (State : Type) where
  chain : State
  gas : UInt64 := 0

structure Runner (State : Type) where
  connection : Connection State
  options : Options := {}
  /-- Adds the gas of receipts to the total of the run. -/
  counted : Bool := true

namespace Runner

variable {State : Type}

/-- Sends a request over the connection. -/
def request {Reply : Type} (action : StateM State Reply) : StateM (Run State) Reply := fun run =>
  let (reply, chain) := action.run run.chain
  (reply, { run with chain := chain })

def countGas (runner : Runner State) (receipt : Receipt) : StateM (Run State) Unit :=
  modify fun run => if runner.counted then { run with gas := run.gas + receipt.gasUsed } else run

/-- Calls a transaction and then sends it. -/
def execute (runner : Runner State) (transaction : Transaction) (reporter : Reporter) :
    StateM (Run State) (Outcome Bytes) := do
  let refused (refusal : Refusal) : Outcome Bytes :=
    .make none none (some (.classify refusal reporter.error?)) reporter
  match ← request (runner.connection.call transaction) with
  | .error refusal => return refused refusal
  | .ok value =>
    if runner.options.dryRun then return .make (some value) (some .unsent) none reporter
    match ← request (runner.connection.send transaction) with
    | .error refusal => return refused refusal
    | .ok receipt =>
      runner.countGas receipt
      return .make (some value) (some receipt) none reporter

/-- Calls a method of a contract. -/
def invoke (runner : Runner State) (transaction : Transaction) (interface : Interface) (method : String)
    (reporter : Reporter) : StateM (Run State) (Outcome Bytes) := do
  let outcome ← runner.execute (runner.options.apply transaction) reporter
  return outcome.withCall interface method transaction.data

/-- Transfers value without calling a method. -/
def transfer (runner : Runner State) (sender recipient : Address) (value : Word) :
    StateM (Run State) (Outcome Bytes) :=
  runner.execute
    (runner.options.apply { sender := sender, recipient := some recipient, value := value }) .silent

/-- Where a dry run pretends that a contract was created. -/
def dryRunAddress (transaction : Transaction) : Address :=
  (keccak256 (transaction.sender.toList ++ transaction.data)).last 20 (by decide)

/-- Creates a contract. The outcome's value is where it went. -/
def deploy (runner : Runner State) (sender : Address) (artifact : Artifact) (arguments : List AbiValue) :
    StateM (Run State) (Outcome Address) := do
  match artifact.interface.encodeConstructor arguments with
  | .error fault => return .make none none (some (.encoding fault)) .silent
  | .ok encoded =>
    let transaction := runner.options.apply { sender := sender, data := artifact.bytecode ++ encoded }
    if runner.options.dryRun then return .make (some (dryRunAddress transaction)) none none .silent
    match ← request (runner.connection.deploy transaction) with
    | .error refusal => return .make none none (some (.classify refusal fun _ => none)) .silent
    | .ok (address, receipt) =>
      runner.countGas receipt
      return .make (some address) (some receipt) none .silent

end Runner

end ChainScript
