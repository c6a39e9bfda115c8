import Mathlib.Algebra.GroupWithZero.Nat
import Mathlib.Data.List.Forall2
import ChainScript.Chain.Gas
import ChainScript.Proofs.RunnerPaths

/-! The gas of a run. The total is kept up where a receipt arrives, while an outcome works out its own gas from the
receipt that it was given; the two agree on every path, so the total grows by what the outcomes tell. -/

namespace ChainScript

variable {State : Type}

/-- The gas of all receipts among the replies. -/
def spent (exchanges : List Exchange) : Nat :=
  ((exchanges.filterMap Exchange.receipt?).map (·.gasUsed.toNat)).sum

/-- An outcome that accounts for the gas of its exchanges: the run is charged with it, and where nothing was sent or
something went wrong it is nothing. -/
structure Accounts {Value : Type} (runner : Runner State) (run : Run State) (exchanges : List Exchange)
    (outcome : Outcome Value) (next : Run State) : Prop where
  charged : next.gas = if runner.counted then run.gas + outcome.gasUsed else run.gas
  receipts : outcome.gasUsed.toNat = spent exchanges
  failed : outcome.error ≠ none → outcome.gasUsed = 0
  dry : runner.options.dryRun = true → outcome.gasUsed = 0

namespace Accounts

variable {Value : Type} {runner : Runner State} {run next : Run State} {exchanges : List Exchange}
  {outcome : Outcome Value}

theorem map {Other : Type} (accounts : Accounts runner run exchanges outcome next) (change : Value → Other) :
    Accounts runner run exchanges (outcome.map change) next :=
  ⟨accounts.charged, accounts.receipts, accounts.failed, accounts.dry⟩

theorem withCall (accounts : Accounts runner run exchanges outcome next) (interface : Interface) (method : String)
    (data : Bytes) : Accounts runner run exchanges (outcome.withCall interface method data) next := by
  rw [Outcome.withCall_eq]
  exact ⟨accounts.charged, accounts.receipts, accounts.failed, accounts.dry⟩

/-- Without receipts there is no gas. -/
theorem of_free (kept : next.gas = run.gas) (none : outcome.gasUsed = 0) (unpaid : spent exchanges = 0) :
    Accounts runner run exchanges outcome next := by
  refine ⟨?_, ?_, fun _ => none, fun _ => none⟩
  · rw [kept, none, UInt64.add_zero, ite_self]
  · rw [none, unpaid]
    rfl

/-- A mined transaction is paid for. -/
theorem of_mined {value : Option Value} {receipt : Receipt} {reporter : Reporter} (run : Run State) (chain : State)
    (live : runner.options.dryRun = false) (paid : spent exchanges = receipt.gasUsed.toNat) :
    Accounts runner run exchanges (.make value (some receipt) none reporter)
      (runner.charged receipt { run with chain := chain }) := by
  refine ⟨?_, paid.symm, fun fails => absurd rfl fails, fun dry => ?_⟩
  · unfold Runner.charged
    split <;> rfl
  · rw [live] at dry
    cases dry

end Accounts

theorem Runner.Executes.accounts {runner : Runner State} {transaction : Transaction} {reporter : Reporter}
    {run next : Run State} {exchanges : List Exchange} {outcome : Outcome Bytes}
    (executes : runner.Executes transaction reporter run exchanges outcome next) :
    Accounts runner run exchanges outcome next := by
  cases executes with
  | refused | dry | rejected => exact .of_free rfl rfl rfl
  | mined live => exact .of_mined run _ live (Nat.add_zero _)

theorem Runner.Deploys.accounts {runner : Runner State} {sender : Address} {artifact : Artifact}
    {arguments : List AbiValue} {run next : Run State} {exchanges : List Exchange} {outcome : Outcome Address}
    (deploys : runner.Deploys sender artifact arguments run exchanges outcome next) :
    Accounts runner run exchanges outcome next := by
  cases deploys with
  | unwritten | dry | rejected => exact .of_free rfl rfl rfl
  | mined _ live => exact .of_mined run _ live (Nat.add_zero _)

theorem Task.Performs.accounts {task : Task State} {run next : Run State} {exchanges : List Exchange}
    {outcome : Outcome Returned} (performs : task.Performs run exchanges outcome next) :
    Accounts task.runner run exchanges outcome next := by
  cases performs with
  | invoke executes => exact (executes.accounts.withCall _ _ _).map Sum.inl
  | transfer executes => exact executes.accounts.map Sum.inl
  | deploy deploys => exact deploys.accounts.map Sum.inr

/-- The gas of all outcomes. -/
def gasOf (outcomes : List (Outcome Returned)) : Nat :=
  (outcomes.map (·.gasUsed.toNat)).sum

namespace Task.PerformsAll

variable {tasks : List (Task State)} {run next : Run State} {dialogues : List (List Exchange)}
  {outcomes : List (Outcome Returned)}

theorem charged (performs : PerformsAll tasks run dialogues outcomes next)
    (counted : ∀ task ∈ tasks, task.runner.counted = true) :
    next.gas.toNat = (run.gas.toNat + gasOf outcomes) % UInt64.size := by
  induction performs with
  | @nil run => exact (Nat.mod_eq_of_lt run.gas.toNat_lt).symm
  | @cons task tasks run middle next exchanges dialogues outcome outcomes first rest ih =>
    have others := ih fun other member => counted other (List.mem_cons_of_mem _ member)
    have own := first.accounts.charged
    rw [if_pos (counted task List.mem_cons_self)] at own
    have whole : gasOf (outcome :: outcomes) = outcome.gasUsed.toNat + gasOf outcomes := List.sum_cons
    calc next.gas.toNat
        = ((run.gas.toNat + outcome.gasUsed.toNat) % UInt64.size + gasOf outcomes) % UInt64.size := by
          rw [others, own, UInt64.toNat_add]
      _ = (run.gas.toNat + gasOf (outcome :: outcomes)) % UInt64.size := by
          rw [Nat.mod_add_mod, Nat.add_assoc, whole]

theorem unpaid (performs : PerformsAll tasks run dialogues outcomes next) :
    List.Forall₂ (fun task outcome => outcome.error ≠ none ∨ task.runner.options.dryRun = true →
      outcome.gasUsed = 0) tasks outcomes := by
  induction performs with
  | nil => exact .nil
  | cons first rest ih => exact .cons (Or.rec first.accounts.failed first.accounts.dry) ih

end Task.PerformsAll

namespace GasMeters

end GasMeters

end ChainScript
