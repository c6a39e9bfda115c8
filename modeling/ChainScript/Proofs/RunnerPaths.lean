import ChainScript.Chain.Operation

/-! Every way an operation can go. A path names the requests that reach the chain, the replies to them, the outcome and
what is left of the run. Each task takes one path, whatever the connection answers, and a connection that records the
exchanges sees just those of the path. -/

namespace ChainScript

variable {State : Type}

/-- A request to a chain and the reply to it. -/
inductive Exchange where
  | call (transaction : Transaction) (reply : Except Refusal Bytes)
  | send (transaction : Transaction) (reply : Except Refusal Receipt)
  | deploy (transaction : Transaction) (reply : Except Refusal Deployed)

namespace Exchange

def request : Exchange → Request
  | .call transaction _ => ⟨.call, transaction⟩
  | .send transaction _ => ⟨.send, transaction⟩
  | .deploy transaction _ => ⟨.deploy, transaction⟩

/-- The receipt of what was carried out. -/
def receipt? : Exchange → Option Receipt
  | .send _ (.ok receipt) | .deploy _ (.ok (_, receipt)) => some receipt
  | _ => none

end Exchange

/-- The same connection, with every exchange kept beside its state. -/
def Connection.recorded (connection : Connection State) : Connection (State × List Exchange) where
  call transaction := fun (state, exchanges) =>
    let (reply, next) := connection.call transaction state
    (reply, (next, exchanges ++ [.call transaction reply]))
  send transaction := fun (state, exchanges) =>
    let (reply, next) := connection.send transaction state
    (reply, (next, exchanges ++ [.send transaction reply]))
  deploy transaction := fun (state, exchanges) =>
    let (reply, next) := connection.deploy transaction state
    (reply, (next, exchanges ++ [.deploy transaction reply]))

namespace Connection

variable {connection : Connection State} {transaction : Transaction} {state next : State}

theorem recorded_call {reply : Except Refusal Bytes} (answered : connection.call transaction state = (reply, next))
    (before : List Exchange) :
    connection.recorded.call transaction (state, before) = (reply, (next, before ++ [.call transaction reply])) := by
  simp only [recorded, answered]

theorem recorded_send {reply : Except Refusal Receipt} (answered : connection.send transaction state = (reply, next))
    (before : List Exchange) :
    connection.recorded.send transaction (state, before) = (reply, (next, before ++ [.send transaction reply])) := by
  simp only [recorded, answered]

theorem recorded_deploy {reply : Except Refusal Deployed}
    (answered : connection.deploy transaction state = (reply, next)) (before : List Exchange) :
    connection.recorded.deploy transaction (state, before) =
      (reply, (next, before ++ [.deploy transaction reply])) := by
  simp only [recorded, answered]

end Connection

def Run.recorded (run : Run State) (exchanges : List Exchange) : Run (State × List Exchange) :=
  ⟨(run.chain, exchanges), run.gas⟩

def Runner.recorded (runner : Runner State) : Runner (State × List Exchange) :=
  ⟨runner.connection.recorded, runner.options, runner.counted⟩

def Task.recorded (task : Task State) : Task (State × List Exchange) :=
  ⟨task.runner.recorded, task.operation⟩

/-- A computation whose first step is known goes on with the rest. -/
theorem bind_run {σ α β : Type} {step : StateM σ α} {next : α → StateM σ β} {state after : σ} {value : α}
    (ran : step state = (value, after)) : (step >>= next) state = next value after := by
  simp only [bind, StateT.bind, ran]

namespace Runner

variable (runner : Runner State)

/-- The run after a receipt. -/
def charged (receipt : Receipt) (run : Run State) : Run State :=
  if runner.counted then { run with gas := run.gas + receipt.gasUsed } else run

@[simp] theorem charged_chain (receipt : Receipt) (run : Run State) :
    (runner.charged receipt run).chain = run.chain := by
  unfold charged
  split <;> rfl

theorem charged_recorded (receipt : Receipt) (run : Run State) (exchanges : List Exchange) :
    runner.recorded.charged receipt (run.recorded exchanges) = (runner.charged receipt run).recorded exchanges := by
  unfold charged recorded
  split <;> rfl

/-- A transaction is refused by the call, or only called in a dry run, or called and sent. -/
inductive Executes (transaction : Transaction) (reporter : Reporter) (run : Run State) :
    List Exchange → Outcome Bytes → Run State → Prop where
  | refused {refusal : Refusal} {chain : State}
      (called : runner.connection.call transaction run.chain = (.error refusal, chain)) :
      Executes transaction reporter run [.call transaction (.error refusal)]
        (.make none none (some (.classify refusal reporter.error?)) reporter) { run with chain := chain }
  | dry {value : Bytes} {chain : State} (dry : runner.options.dryRun = true)
      (called : runner.connection.call transaction run.chain = (.ok value, chain)) :
      Executes transaction reporter run [.call transaction (.ok value)]
        (.make (some value) (some .unsent) none reporter) { run with chain := chain }
  | rejected {value : Bytes} {refusal : Refusal} {middle chain : State} (live : runner.options.dryRun = false)
      (called : runner.connection.call transaction run.chain = (.ok value, middle))
      (sent : runner.connection.send transaction middle = (.error refusal, chain)) :
      Executes transaction reporter run [.call transaction (.ok value), .send transaction (.error refusal)]
        (.make none none (some (.classify refusal reporter.error?)) reporter) { run with chain := chain }
  | mined {value : Bytes} {receipt : Receipt} {middle chain : State} (live : runner.options.dryRun = false)
      (called : runner.connection.call transaction run.chain = (.ok value, middle))
      (sent : runner.connection.send transaction middle = (.ok receipt, chain)) :
      Executes transaction reporter run [.call transaction (.ok value), .send transaction (.ok receipt)]
        (.make (some value) (some receipt) none reporter) (runner.charged receipt { run with chain := chain })

/-- A contract cannot be created for want of arguments, or is not created in a dry run, or is deployed. -/
inductive Deploys (sender : Address) (artifact : Artifact) (arguments : List AbiValue) (run : Run State) :
    List Exchange → Outcome Address → Run State → Prop where
  | unwritten {fault : AbiError} (unfit : artifact.interface.encodeConstructor arguments = .error fault) :
      Deploys sender artifact arguments run [] (.make none none (some (.encoding fault)) .silent) run
  | dry {encoded : Bytes} (written : artifact.interface.encodeConstructor arguments = .ok encoded)
      (dry : runner.options.dryRun = true) :
      Deploys sender artifact arguments run []
        (.make (some (dryRunAddress
          (runner.options.apply { sender := sender, data := artifact.bytecode ++ encoded }))) none none .silent) run
  | rejected {encoded : Bytes} {refusal : Refusal} {chain : State}
      (written : artifact.interface.encodeConstructor arguments = .ok encoded) (live : runner.options.dryRun = false)
      (sent : runner.connection.deploy
        (runner.options.apply { sender := sender, data := artifact.bytecode ++ encoded }) run.chain =
          (.error refusal, chain)) :
      Deploys sender artifact arguments run
        [.deploy (runner.options.apply { sender := sender, data := artifact.bytecode ++ encoded }) (.error refusal)]
        (.make none none (some (.classify refusal fun _ => none)) .silent) { run with chain := chain }
  | mined {encoded : Bytes} {address : Address} {receipt : Receipt} {chain : State}
      (written : artifact.interface.encodeConstructor arguments = .ok encoded) (live : runner.options.dryRun = false)
      (sent : runner.connection.deploy
        (runner.options.apply { sender := sender, data := artifact.bytecode ++ encoded }) run.chain =
          (.ok (address, receipt), chain)) :
      Deploys sender artifact arguments run
        [.deploy (runner.options.apply { sender := sender, data := artifact.bytecode ++ encoded })
          (.ok (address, receipt))]
        (.make (some address) (some receipt) none .silent) (runner.charged receipt { run with chain := chain })

variable {runner} {run next : Run State} {exchanges : List Exchange}

theorem Executes.recorded {transaction : Transaction} {reporter : Reporter} {outcome : Outcome Bytes}
    (executes : runner.Executes transaction reporter run exchanges outcome next) (before : List Exchange) :
    runner.recorded.Executes transaction reporter (run.recorded before) exchanges outcome
      (next.recorded (before ++ exchanges)) := by
  cases executes with
  | refused called => exact .refused (Connection.recorded_call called before)
  | dry dry called => exact .dry dry (Connection.recorded_call called before)
  | @rejected value refusal middle chain live called sent =>
    have kept := Connection.recorded_send sent (before ++ [.call transaction (.ok value)])
    rw [List.append_assoc] at kept
    exact .rejected live (Connection.recorded_call called before) kept
  | @mined value receipt middle chain live called sent =>
    have kept := Connection.recorded_send sent (before ++ [.call transaction (.ok value)])
    rw [List.append_assoc] at kept
    rw [← charged_recorded]
    exact .mined live (Connection.recorded_call called before) kept

theorem Deploys.recorded {sender : Address} {artifact : Artifact} {arguments : List AbiValue}
    {outcome : Outcome Address} (deploys : runner.Deploys sender artifact arguments run exchanges outcome next)
    (before : List Exchange) :
    runner.recorded.Deploys sender artifact arguments (run.recorded before) exchanges outcome
      (next.recorded (before ++ exchanges)) := by
  cases deploys with
  | unwritten unfit =>
    rw [List.append_nil]
    exact .unwritten unfit
  | dry written dry =>
    rw [List.append_nil]
    exact .dry written dry
  | rejected written live sent => exact .rejected written live (Connection.recorded_deploy sent before)
  | mined written live sent =>
    rw [← charged_recorded]
    exact .mined written live (Connection.recorded_deploy sent before)

end Runner

/-- The call that is added to an outcome, and all that is left of it as it was. -/
theorem Outcome.withCall_eq {Value : Type} (outcome : Outcome Value) (interface : Interface) (method : String)
    (data : Bytes) :
    outcome.withCall interface method data =
      { outcome with
        method := some method
        arguments := match interface.argumentsOf method data with
          | .ok arguments => arguments
          | .error _ => outcome.arguments } := by
  unfold withCall
  cases interface.argumentsOf method data <;> rfl

namespace Task

/-- The path of a task: that of its transaction with the gas settings of its runner, or that of its deployment. -/
inductive Performs : Task State → Run State → List Exchange → Outcome Returned → Run State → Prop where
  | invoke {runner : Runner State} {transaction : Transaction} {interface : Interface} {method : String}
      {reporter : Reporter} {run next : Run State} {exchanges : List Exchange} {outcome : Outcome Bytes}
      (executes : runner.Executes (runner.options.apply transaction) reporter run exchanges outcome next) :
      Performs ⟨runner, .invoke transaction interface method reporter⟩ run exchanges
        ((outcome.withCall interface method transaction.data).map .inl) next
  | transfer {runner : Runner State} {sender recipient : Address} {value : Word} {run next : Run State}
      {exchanges : List Exchange} {outcome : Outcome Bytes}
      (executes : runner.Executes
        (runner.options.apply { sender := sender, recipient := some recipient, value := value }) .silent run exchanges
          outcome next) :
      Performs ⟨runner, .transfer sender recipient value⟩ run exchanges (outcome.map .inl) next
  | deploy {runner : Runner State} {sender : Address} {artifact : Artifact} {arguments : List AbiValue}
      {run next : Run State} {exchanges : List Exchange} {outcome : Outcome Address}
      (deploys : runner.Deploys sender artifact arguments run exchanges outcome next) :
      Performs ⟨runner, .deploy sender artifact arguments⟩ run exchanges (outcome.map .inr) next

/-- The paths of tasks, each of which starts where the one before it ended. -/
inductive PerformsAll : List (Task State) → Run State → List (List Exchange) → List (Outcome Returned) → Run State →
    Prop where
  | nil {run : Run State} : PerformsAll [] run [] [] run
  | cons {task : Task State} {tasks : List (Task State)} {run middle next : Run State} {exchanges : List Exchange}
      {dialogues : List (List Exchange)} {outcome : Outcome Returned} {outcomes : List (Outcome Returned)}
      (first : task.Performs run exchanges outcome middle) (rest : PerformsAll tasks middle dialogues outcomes next) :
      PerformsAll (task :: tasks) run (exchanges :: dialogues) (outcome :: outcomes) next

variable {task : Task State} {tasks : List (Task State)} {run next : Run State}

theorem Performs.recorded {exchanges : List Exchange} {outcome : Outcome Returned}
    (performs : task.Performs run exchanges outcome next) (before : List Exchange) :
    task.recorded.Performs (run.recorded before) exchanges outcome (next.recorded (before ++ exchanges)) := by
  cases performs with
  | invoke executes => exact .invoke (executes.recorded before)
  | transfer executes => exact .transfer (executes.recorded before)
  | deploy deploys => exact .deploy (deploys.recorded before)

variable {dialogues : List (List Exchange)} {outcomes : List (Outcome Returned)}

theorem PerformsAll.recorded (performs : PerformsAll tasks run dialogues outcomes next) (before : List Exchange) :
    PerformsAll (tasks.map Task.recorded) (run.recorded before) dialogues outcomes
      (next.recorded (before ++ dialogues.flatten)) := by
  induction performs generalizing before with
  | nil =>
    rw [List.flatten_nil, List.append_nil]
    exact .nil
  | @cons task tasks run middle next exchanges dialogues outcome outcomes first rest ih =>
    have others := ih (before ++ exchanges)
    rw [List.append_assoc, ← List.flatten_cons] at others
    exact .cons (first.recorded before) others

end Task

end ChainScript
