import ChainScript.Session
import ChainScript.Proofs.Trimming

/-! How a session goes through a script. A line that is passed over changes nothing; any other line is evaluated in the
world that the lines before it have left, and gives a report. Every run takes one such course, so what is said of a
course by going along its lines is said of the run. -/

namespace ChainScript

variable {World Value : Type}

/-- The report on the same line of a script that stands `lines` further down. -/
def Report.moved (report : Report) (lines : Nat) : Report :=
  { report with number := report.number + lines }

namespace Session
open Text

/-- Blank lines and comments, which are passed over. -/
def Idle (line : String) : Prop :=
  trim line.toList = [] ∨ "--".toList <+: trim line.toList

instance : DecidablePred Idle :=
  fun line => inferInstanceAs (Decidable (trim line.toList = [] ∨ "--".toList <+: trim line.toList))

def bare (line : String) : String :=
  String.ofList (trim line.toList)

theorem statement?_eq (line : String) : statement? line = if Idle line then none else some (bare line) := by
  unfold statement? bare
  simp only [Bool.or_eq_true, List.isEmpty_iff, List.isPrefixOf_iff_prefix]
  rfl

variable (session : Session World Value)

/-- The world after a statement, and its error: one that fails leaves the world as it was. -/
inductive Settles (world : World) (statement : String) : Option ScriptError → World → Prop where
  | done {next : World} (evaluated : session.eval world statement = .ok next) : Settles world statement none next
  | failed {error : ScriptError} (evaluated : session.eval world statement = .error error) :
      Settles world statement (some error) world

/-- The course of a run from the line of this number on. -/
inductive Runs : Nat → World → List String → List Report → World → Prop where
  | nil {number : Nat} {world : World} : Runs number world [] [] world
  | idle {number : Nat} {world final : World} {line : String} {lines : List String} {reports : List Report}
      (idle : Idle line) (rest : Runs (number + 1) world lines reports final) :
      Runs number world (line :: lines) reports final
  | line {number : Nat} {world next final : World} {line : String} {lines : List String} {error : Option ScriptError}
      {reports : List Report} (busy : ¬Idle line) (settled : session.Settles world (bare line) error next)
      (rest : Runs (number + 1) next lines reports final) :
      Runs number world (line :: lines) (⟨number, bare line, error⟩ :: reports) final

variable {session}

theorem runFrom_of_runs {number : Nat} {world final : World} {lines : List String} {reports : List Report}
    (runs : session.Runs number world lines reports final) :
    session.runFrom number world lines = (final, reports) := by
  induction runs with
  | nil => rfl
  | idle idle rest ih => rw [runFrom, statement?_eq, if_pos idle, ih]
  | line busy settled rest ih =>
    rw [runFrom, statement?_eq, if_neg busy]
    cases settled with
    | done evaluated => simp only [evaluated, ih]
    | failed evaluated => simp only [evaluated, ih]

theorem exists_settles (session : Session World Value) (world : World) (statement : String) :
    ∃ error next, session.Settles world statement error next := by
  cases evaluated : session.eval world statement with
  | ok next => exact ⟨none, next, .done evaluated⟩
  | error error => exact ⟨some error, world, .failed evaluated⟩

theorem runs_runFrom (session : Session World Value) (number : Nat) (world : World) (lines : List String) :
    session.Runs number world lines (session.runFrom number world lines).2
      (session.runFrom number world lines).1 := by
  -- There is a course, and the run takes whichever there is.
  suffices course : ∃ reports final, session.Runs number world lines reports final by
    obtain ⟨reports, final, runs⟩ := course
    rw [runFrom_of_runs runs]
    exact runs
  induction lines generalizing number world with
  | nil => exact ⟨_, _, .nil⟩
  | cons line lines ih =>
    by_cases idle : Idle line
    · obtain ⟨reports, final, rest⟩ := ih (number + 1) world
      exact ⟨_, _, .idle idle rest⟩
    · obtain ⟨error, next, settled⟩ := session.exists_settles world (bare line)
      obtain ⟨reports, final, rest⟩ := ih (number + 1) next
      exact ⟨_, _, .line idle settled rest⟩

namespace Runs

variable {number : Nat} {world middle final : World} {lines : List String} {reports : List Report}

theorem append {more : List String} {others : List Report} (runs : session.Runs number world lines reports middle)
    (rest : session.Runs (number + lines.length) middle more others final) :
    session.Runs number world (lines ++ more) (reports ++ others) final := by
  induction runs with
  | nil => exact rest
  | idle idle first ih =>
    refine .idle idle (ih ?_)
    rw [Nat.add_assoc, Nat.add_comm 1]
    exact rest
  | line busy settled first ih =>
    refine .line busy settled (ih ?_)
    rw [Nat.add_assoc, Nat.add_comm 1]
    exact rest

/-- The numbers of the lines matter only to the reports. -/
theorem moved (runs : session.Runs number world lines reports final) (above : Nat) :
    session.Runs (number + above) world lines (reports.map (·.moved above)) final := by
  induction runs with
  | nil => exact .nil
  | idle idle rest ih =>
    refine .idle idle ?_
    rw [Nat.add_right_comm]
    exact ih
  | line busy settled rest ih =>
    refine .line busy settled ?_
    rw [Nat.add_right_comm]
    exact ih

theorem number_le (runs : session.Runs number world lines reports final) :
    ∀ report ∈ reports, number ≤ report.number := by
  induction runs with
  | nil => exact List.forall_mem_nil _
  | idle idle rest ih => exact fun report member => Nat.le_of_succ_le (ih report member)
  | line busy settled rest ih =>
    exact List.forall_mem_cons.mpr ⟨Nat.le_refl _, fun report member => Nat.le_of_succ_le (ih report member)⟩

theorem increasing (runs : session.Runs number world lines reports final) :
    reports.Pairwise (·.number < ·.number) := by
  induction runs with
  | nil => exact .nil
  | idle idle rest ih => exact ih
  | line busy settled rest ih => exact .cons rest.number_le ih

end Runs

/-- The numbers and the statements of the lines that are not passed over. -/
def statements (number : Nat) (lines : List String) : List (Nat × String) :=
  ((lines.zipIdx number).filter fun entry => ¬Idle entry.1).map fun entry => (entry.2, bare entry.1)

theorem Runs.statements {number : Nat} {world final : World} {lines : List String} {reports : List Report}
    (runs : session.Runs number world lines reports final) :
    reports.map (fun report => (report.number, report.line)) = Session.statements number lines := by
  induction runs with
  | nil => rfl
  | idle idle rest ih =>
    rw [ih, Session.statements, Session.statements, List.zipIdx_cons, List.filter_cons_of_neg (by simpa using idle)]
  | line busy settled rest ih =>
    rw [List.map_cons, ih, Session.statements, Session.statements, List.zipIdx_cons,
      List.filter_cons_of_pos (by simpa using busy), List.map_cons]

/-- Each report tells what its statement came to in the world that the one before has handed on. -/
inductive Hands (session : Session World Value) : World → List Report → World → Prop where
  | nil {world : World} : Hands session world [] world
  | cons {world next final : World} {report : Report} {reports : List Report}
      (settled : session.Settles world report.line report.error next) (rest : Hands session next reports final) :
      Hands session world (report :: reports) final

theorem Runs.hands {number : Nat} {world final : World} {lines : List String} {reports : List Report}
    (runs : session.Runs number world lines reports final) : session.Hands world reports final := by
  induction runs with
  | nil => exact .nil
  | idle idle rest ih => exact ih
  | line busy settled rest ih => exact .cons settled ih

/-- A script that is run in two pieces, the second in the world that the first has left, gives the same world and the
same reports, but for the numbers of the second piece, which go on from the first. Of any script, just the lines that
are neither blank nor comments are reported, each once and in order under its own number, and each is evaluated in the
world that the one before has handed on. -/
theorem run_append_in_order (session : Session World Value) (world : World) :
    (∀ first rest, session.run world (first ++ rest) =
      let before := session.run world first
      let after := session.run before.1 rest
      (after.1, before.2 ++ after.2.map (·.moved first.length))) ∧
    ∀ lines,
      let (final, reports) := session.run world lines
      reports.map (fun report => (report.number, report.line)) = statements 1 lines ∧
        reports.Pairwise (·.number < ·.number) ∧ session.Hands world reports final := by
  constructor
  · intro first rest
    have before := session.runs_runFrom 1 world first
    have after := session.runs_runFrom 1 (session.run world first).1 rest
    exact runFrom_of_runs (before.append (after.moved first.length))
  · intro lines
    have runs := session.runs_runFrom 1 world lines
    exact ⟨runs.statements, runs.increasing, runs.hands⟩

end Session

end ChainScript
