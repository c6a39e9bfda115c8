import ChainScript.Proofs.FailureEntries
import ChainScript.Proofs.RunnerPaths

/-! What the outcome of an operation tells. Value, receipt and error are put together on every path of an operation;
they fit together on each, and with the replies that came back on it. All else in an outcome follows from its receipt
and from the operation itself. -/

namespace ChainScript

variable {State Value Other : Type}

/-- Why a request was not carried out. -/
def Exchange.refusal? : Exchange → Option Refusal
  | .call _ (.error refusal) | .send _ (.error refusal) | .deploy _ (.error refusal) => some refusal
  | _ => none

namespace Operation

def creates : Operation → Bool
  | .deploy _ _ _ => true
  | _ => false

def reporter : Operation → Reporter
  | .invoke _ _ _ reporter => reporter
  | _ => .silent

/-- The names of the codes of reverts: without a method, no code has one. -/
def resolve : Operation → UInt64 → Option String
  | .invoke _ _ _ reporter => reporter.error?
  | _ => fun _ => none

/-- Why the arguments of a constructor cannot be written. -/
def unwritten? : Operation → Option AbiError
  | .deploy _ artifact arguments =>
    match artifact.interface.encodeConstructor arguments with
    | .ok _ => none
    | .error fault => some fault
  | _ => none

def method? : Operation → Option String
  | .invoke _ _ method _ => some method
  | _ => none

/-- The arguments that the data of the operation itself holds for its method; none if they cannot be read. -/
def arguments : Operation → List NamedValue
  | .invoke transaction interface method _ =>
    match interface.argumentsOf method transaction.data with
    | .ok arguments => arguments
    | .error _ => []
  | _ => []

/-- The error that these exchanges of the operation come to. -/
def error? (operation : Operation) (exchanges : List Exchange) : Option RunError :=
  match operation.unwritten?, exchanges.findSome? Exchange.refusal? with
  | some fault, _ => some (.encoding fault)
  | none, some refusal => some (.classify refusal operation.resolve)
  | none, none => none

end Operation

/-- Value, receipt and error of an outcome, as they fit together after these exchanges of an operation. -/
structure Consistent (operation : Operation) (dry : Bool) (exchanges : List Exchange) (outcome : Outcome Value) :
    Prop where
  error : outcome.error = operation.error? exchanges
  value : outcome.value.isSome = true ↔ outcome.error = none
  receipt : outcome.receipt.isSome = true ↔ outcome.error = none ∧ ¬(operation.creates = true ∧ dry = true)
  mined : ∀ exchange ∈ exchanges, ∀ receipt, exchange.receipt? = some receipt → outcome.receipt = some receipt
  gas : outcome.gasUsed = (outcome.receipt.map (·.gasUsed)).getD 0
  failures : outcome.failures = (outcome.receipt.map (Failure.ofReceipt operation.reporter)).getD []

namespace Consistent

variable {operation : Operation} {dry : Bool} {exchanges : List Exchange} {outcome : Outcome Value}

theorem map (consistent : Consistent operation dry exchanges outcome) (change : Value → Other) :
    Consistent operation dry exchanges (outcome.map change) :=
  { consistent with value := by rw [Outcome.map, Option.isSome_map]; exact consistent.value }

theorem withCall (consistent : Consistent operation dry exchanges outcome) (interface : Interface) (method : String)
    (data : Bytes) : Consistent operation dry exchanges (outcome.withCall interface method data) := by
  rw [Outcome.withCall_eq]
  exact ⟨consistent.error, consistent.value, consistent.receipt, consistent.mined, consistent.gas, consistent.failures⟩

/-- Where something went wrong, there is neither a value nor a receipt. -/
theorem of_failed {error : RunError} (told : operation.error? exchanges = some error)
    (unmined : ∀ exchange ∈ exchanges, exchange.receipt? = none) (reporter : Reporter) :
    Consistent operation dry exchanges (.make none none (some error) reporter : Outcome Value) where
  error := told.symm
  value := iff_of_false Bool.false_ne_true (Option.some_ne_none error)
  receipt := iff_of_false Bool.false_ne_true fun clean => Option.some_ne_none error clean.1
  mined exchange member receipt mined := by
    rw [unmined exchange member] at mined
    cases mined
  gas := rfl
  failures := rfl

/-- Where nothing went wrong, there is a value, and the receipt is that of what was mined. -/
theorem of_done {value : Value} {receipt : Option Receipt} (clean : operation.error? exchanges = none)
    (kept : receipt.isSome = true ↔ ¬(operation.creates = true ∧ dry = true))
    (mined : ∀ exchange ∈ exchanges, ∀ own, exchange.receipt? = some own → receipt = some own) :
    Consistent operation dry exchanges (.make (some value) receipt none operation.reporter) where
  error := clean.symm
  value := iff_of_true rfl rfl
  receipt := kept.trans (and_iff_right rfl).symm
  mined := mined
  gas := by cases receipt <;> rfl
  failures := by cases receipt <;> rfl

end Consistent

private theorem error?_of_calls {operation : Operation} (calls : operation.creates = false)
    (exchanges : List Exchange) :
    operation.error? exchanges =
      (exchanges.findSome? Exchange.refusal?).map (.classify · operation.reporter.error?) := by
  cases operation with
  | invoke | transfer =>
    unfold Operation.error?
    dsimp only [Operation.unwritten?]
    cases exchanges.findSome? Exchange.refusal? <;> rfl
  | deploy => cases calls

theorem Runner.Executes.consistent {runner : Runner State} {operation : Operation} {transaction : Transaction}
    {run next : Run State} {exchanges : List Exchange} {outcome : Outcome Bytes}
    (executes : runner.Executes transaction operation.reporter run exchanges outcome next)
    (calls : operation.creates = false) : Consistent operation runner.options.dryRun exchanges outcome := by
  -- Only the creation of a contract is without a receipt in a dry run; a call has an empty one.
  have kept : ¬(operation.creates = true ∧ runner.options.dryRun = true) := by
    rw [calls]
    exact fun both => Bool.false_ne_true both.1
  have told := error?_of_calls calls
  cases executes with
  | refused => exact .of_failed (told _) (by simp [Exchange.receipt?]) _
  | dry => exact .of_done (told _) (iff_of_true rfl kept) (by simp [Exchange.receipt?])
  | rejected => exact .of_failed (told _) (by simp [Exchange.receipt?]) _
  | mined => exact .of_done (told _) (iff_of_true rfl kept) (by simp [Exchange.receipt?])

theorem Runner.Deploys.consistent {runner : Runner State} {sender : Address} {artifact : Artifact}
    {arguments : List AbiValue} {run next : Run State} {exchanges : List Exchange} {outcome : Outcome Address}
    (deploys : runner.Deploys sender artifact arguments run exchanges outcome next) :
    Consistent (.deploy sender artifact arguments) runner.options.dryRun exchanges outcome := by
  cases deploys with
  | unwritten unfit =>
    refine .of_failed ?_ (List.forall_mem_nil _) _
    simp [Operation.error?, Operation.unwritten?, unfit]
  | dry written dry =>
    refine .of_done ?_ (by simp [Operation.creates, dry]) (by simp)
    simp [Operation.error?, Operation.unwritten?, written]
  | rejected written =>
    refine .of_failed ?_ (by simp [Exchange.receipt?]) _
    simp [Operation.error?, Operation.unwritten?, written, Exchange.refusal?, Operation.resolve]
  | mined written live =>
    refine .of_done ?_ (by simp [live]) (by simp [Exchange.receipt?])
    simp [Operation.error?, Operation.unwritten?, written, Exchange.refusal?]

/-- What an operation tells of its method and of the method's arguments, whatever the replies are. -/
structure Named (operation : Operation) (outcome : Outcome Value) : Prop where
  method : outcome.method = operation.method?
  arguments : outcome.arguments = operation.arguments

private theorem Runner.Executes.nameless {runner : Runner State} {transaction : Transaction} {reporter : Reporter}
    {run next : Run State} {exchanges : List Exchange} {outcome : Outcome Bytes}
    (executes : runner.Executes transaction reporter run exchanges outcome next) :
    outcome.method = none ∧ outcome.arguments = [] := by
  cases executes <;> exact ⟨rfl, rfl⟩

private theorem Runner.Deploys.nameless {runner : Runner State} {sender : Address} {artifact : Artifact}
    {arguments : List AbiValue} {run next : Run State} {exchanges : List Exchange} {outcome : Outcome Address}
    (deploys : runner.Deploys sender artifact arguments run exchanges outcome next) :
    outcome.method = none ∧ outcome.arguments = [] := by
  cases deploys <;> exact ⟨rfl, rfl⟩

namespace Task.Performs

variable {task : Task State} {run next : Run State} {exchanges : List Exchange} {outcome : Outcome Returned}

theorem consistent (performs : task.Performs run exchanges outcome next) :
    Consistent task.operation task.runner.options.dryRun exchanges outcome := by
  cases performs with
  | @invoke runner transaction interface method reporter _ _ _ outcome executes =>
    have called : Consistent (.invoke transaction interface method reporter) runner.options.dryRun exchanges outcome :=
      Runner.Executes.consistent executes rfl
    exact (called.withCall interface method transaction.data).map Sum.inl
  | @transfer runner sender recipient value _ _ _ outcome executes =>
    have called : Consistent (.transfer sender recipient value) runner.options.dryRun exchanges outcome :=
      Runner.Executes.consistent executes rfl
    exact called.map Sum.inl
  | deploy deploys => exact deploys.consistent.map Sum.inr

theorem named (performs : task.Performs run exchanges outcome next) : Named task.operation outcome := by
  cases performs with
  | invoke executes =>
    rw [Outcome.withCall_eq, executes.nameless.2]
    exact ⟨rfl, rfl⟩
  | transfer executes => exact ⟨executes.nameless.1, executes.nameless.2⟩
  | deploy deploys => exact ⟨deploys.nameless.1, deploys.nameless.2⟩

end Task.Performs

end ChainScript
