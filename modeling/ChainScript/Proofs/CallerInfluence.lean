import ChainScript.Proofs.DispatchOrder
import ChainScript.Proofs.ExceptSteps
import ChainScript.Proofs.SessionRuns

/-! What the caller can change. A command is first bound to its event, and binding sees no caller; only then does a command
that acts for a caller look for one. Two runs of a script that differ in their callers stay in the same worlds, line by
line, until such a command is bound. -/

namespace ChainScript

variable {World Value : Type}

namespace Command

/-- A command that is bound to its event, and what it does then: it acts for a caller, or it needs none. -/
inductive Bound (World : Type) where
  | forCaller (act : World → Address → Except ScriptError World)
  | view (act : World → Except ScriptError World)

/-- Binding alone: the words of the event are read, and then their record, the way the processor asks for it. -/
def bound (command : Command World Value) (world : World) (event : Event) : Except ScriptError (Bound World) := do
  let record ← command.pattern.bind world event
  match command.processor with
  | .caller prepare => .forCaller <$> prepare record
  | .view prepare => .view <$> prepare record

def Bound.act (name : String) (world : World) (caller : Option Address) : Bound World → Except ScriptError World
  | .view act => act world
  | .forCaller act =>
    match caller with
    | some address => act world address
    | none => .error (.missingCaller name)

theorem process_eq_bound (command : Command World Value) (world : World) (caller : Option Address) (event : Event) :
    command.process world caller event = command.bound world event >>= Bound.act command.pattern.name world caller := by
  unfold process bound
  cases command.pattern.bind world event with
  | error cause => rfl
  | ok record =>
    simp only [ok_bind]
    cases command.processor with
    | view prepare => dsimp only; cases prepare record <;> rfl
    | caller prepare => dsimp only; cases prepare record <;> cases caller <;> rfl

section
variable {command : Command World Value} {world : World} {event : Event}

theorem forCaller_of_bound {bound : Bound World} (requires : command.requiresCaller = true)
    (binds : command.bound world event = .ok bound) : ∃ act, bound = .forCaller act := by
  obtain ⟨pattern, processor⟩ := command
  obtain ⟨record, -, prepared⟩ := bind_eq_ok.mp binds
  cases processor with
  | view prepare => cases requires
  | caller prepare =>
    obtain ⟨act, -, rfl⟩ := map_eq_ok.mp prepared
    exact ⟨act, rfl⟩

theorem view_of_bound {bound : Bound World} (free : command.requiresCaller = false)
    (binds : command.bound world event = .ok bound) : ∃ act, bound = .view act := by
  obtain ⟨pattern, processor⟩ := command
  obtain ⟨record, -, prepared⟩ := bind_eq_ok.mp binds
  cases processor with
  | view prepare =>
    obtain ⟨act, -, rfl⟩ := map_eq_ok.mp prepared
    exact ⟨act, rfl⟩
  | caller prepare => cases free

theorem process_unbound {cause : ScriptError} (fails : command.bound world event = .error cause)
    (caller : Option Address) : command.process world caller event = .error cause := by
  rw [process_eq_bound, fails, error_bind]

theorem process_anonymous {bound : Bound World} (requires : command.requiresCaller = true)
    (binds : command.bound world event = .ok bound) :
    command.process world none event = .error (.missingCaller command.pattern.name) := by
  obtain ⟨act, rfl⟩ := forCaller_of_bound requires binds
  rw [process_eq_bound, binds, ok_bind]
  rfl

theorem process_free (free : command.requiresCaller = false) (first second : Option Address) :
    command.process world first event = command.process world second event := by
  rw [process_eq_bound, process_eq_bound]
  cases binds : command.bound world event with
  | error cause => rfl
  | ok bound =>
    obtain ⟨act, rfl⟩ := view_of_bound free binds
    rfl

end

/-- An event goes to a command that acts for a caller, and binding succeeds. -/
structure Asked (commands : List (Command World Value)) (world : World) (event : Event)
    (command : Command World Value) : Prop where
  chosen : chosen? (·.pattern) event commands = some command
  requires : command.requiresCaller = true
  binds : ∃ bound, command.bound world event = .ok bound

section
variable {kind : String} {commands : List (Command World Value)} {world : World} {event : Event}

theorem processFirst_of_chosen {command : Command World Value}
    (chosen : chosen? (·.pattern) event commands = some command) (caller : Option Address) :
    processFirst kind commands world event caller = command.process world caller event := by
  rw [processFirst_eq_elim, chosen, Option.elim_some]

theorem processFirst_anonymous {command : Command World Value} (asked : Asked commands world event command) :
    processFirst kind commands world event none = .error (.missingCaller command.pattern.name) := by
  obtain ⟨bound, binds⟩ := asked.binds
  rw [processFirst_of_chosen asked.chosen]
  exact process_anonymous asked.requires binds

theorem processFirst_unasked (unasked : ∀ command, ¬Asked commands world event command)
    (first second : Option Address) :
    processFirst kind commands world event first = processFirst kind commands world event second := by
  cases chosen : chosen? (·.pattern) event commands with
  | none => rw [processFirst_eq_elim, processFirst_eq_elim, chosen, Option.elim_none, Option.elim_none]
  | some command =>
    rw [processFirst_of_chosen chosen, processFirst_of_chosen chosen]
    cases requires : command.requiresCaller with
    | false => exact process_free requires first second
    | true =>
      cases binds : command.bound world event with
      | error cause => rw [process_unbound binds, process_unbound binds]
      | ok bound => exact absurd ⟨chosen, requires, bound, binds⟩ (unasked command)

/-- Where nobody misses a caller, it does not matter who the caller is. -/
theorem processFirst_of_unmissed
    (unmissed : ∀ name, processFirst kind commands world event none ≠ .error (.missingCaller name))
    (caller : Option Address) :
    processFirst kind commands world event caller = processFirst kind commands world event none := by
  apply processFirst_unasked
  intro command asked
  exact unmissed command.pattern.name (processFirst_anonymous asked)

end

end Command

namespace Session

/-- The same session in the name of somebody else, or of nobody. -/
def withCaller (session : Session World Value) (caller : Option Address) : Session World Value :=
  { session with caller }

variable {session : Session World Value}

theorem eval_of_unmissed {world : World} {line : String}
    (unmissed : ∀ name, (session.withCaller none).eval world line ≠ .error (.missingCaller name))
    (caller : Option Address) :
    (session.withCaller caller).eval world line = (session.withCaller none).eval world line := by
  unfold eval at unmissed ⊢
  change (session.parse line >>= _) = (session.parse line >>= _)
  cases parsed : session.parse line with
  | error cause => rfl
  | ok event =>
    apply Command.processFirst_of_unmissed
    intro name missed
    apply unmissed name
    change (session.parse line >>= _) = _
    rw [parsed]
    exact missed

theorem Settles.withCaller {world next : World} {statement : String} {error : Option ScriptError}
    (settled : (session.withCaller none).Settles world statement error next)
    (unmissed : ∀ name, error ≠ some (.missingCaller name)) (caller : Option Address) :
    (session.withCaller caller).Settles world statement error next := by
  cases settled with
  | done evaluated =>
    apply Settles.done
    rw [eval_of_unmissed, evaluated]
    intro name missed
    rw [evaluated] at missed
    cases missed
  | failed evaluated =>
    apply Settles.failed
    rw [eval_of_unmissed, evaluated]
    intro name missed
    rw [evaluated] at missed
    cases missed
    exact unmissed name rfl

theorem Runs.withCaller {number : Nat} {world final : World} {lines : List String} {reports : List Report}
    (runs : (session.withCaller none).Runs number world lines reports final)
    (unmissed : ∀ report ∈ reports, ∀ name, report.error ≠ some (.missingCaller name)) (caller : Option Address) :
    (session.withCaller caller).Runs number world lines reports final := by
  -- No line missed its caller, so after each of them both runs are in the same world.
  induction runs with
  | nil => exact .nil
  | idle idle rest ih => exact .idle idle (ih unmissed)
  | line busy settled rest ih =>
    obtain ⟨own, others⟩ := List.forall_mem_cons.mp unmissed
    exact .line busy (settled.withCaller own caller) (ih others)

end Session

open Command

/-- The caller matters only to a command that acts for a caller and is bound. Such a command fails if there is no caller,
and one that is not bound fails in the same way for any caller and for none. So if a script is run for nobody and no line
misses a caller, it is run for anybody with the same reports and to the same world. -/
theorem caller_reaches_bound_commands :
    (∀ kind (commands : List (Command World Value)) world event,
      ((∀ command, ¬Asked commands world event command) → ∀ first second,
        processFirst kind commands world event first = processFirst kind commands world event second) ∧
      (∀ command, Asked commands world event command →
        processFirst kind commands world event none = .error (.missingCaller command.pattern.name)) ∧
      (∀ command cause, chosen? (·.pattern) event commands = some command →
        command.bound world event = .error cause → ∀ caller,
          processFirst kind commands world event caller = .error cause)) ∧
    ∀ (session : Session World Value) world lines,
      let anonymous := (session.withCaller none).run world lines
      (∀ report ∈ anonymous.2, ∀ name, report.error ≠ some (.missingCaller name)) →
        ∀ address, (session.withCaller (some address)).run world lines = anonymous := by
  constructor
  · intro kind commands world event
    refine ⟨?_, ?_, ?_⟩
    · intro unasked
      exact processFirst_unasked unasked
    · intro command asked
      exact processFirst_anonymous asked
    · intro command cause chosen fails caller
      rw [processFirst_of_chosen chosen]
      exact process_unbound fails caller
  · intro session world lines anonymous unmissed address
    have runs := (session.withCaller none).runs_runFrom 1 world lines
    exact Session.runFrom_of_runs (runs.withCaller unmissed (some address))

/-- A payment that is bound misses its caller, one without a receiver fails for everybody, and a look needs nobody. A
script of such lines is run alike for nobody and for somebody. -/
theorem caller_reaches_bound_commands_pay :
    let receiver : Param Nat Unit := { name := "to", read := fun _ _ => .ok () }
    let pay : Command Nat Unit :=
      ⟨{ name := "pay", doc := "", params := [receiver], slots_agree := rfl },
        .caller fun _ => .ok fun counted address => .ok (counted + address.toList.length)⟩
    let look : Command Nat Unit :=
      ⟨{ name := "look", doc := "", params := [], slots_agree := rfl },
        .view fun _ => .ok fun counted => .ok (counted + 1)⟩
    let session : Session Nat Unit :=
      { kind := "Core", parse := fun line => .ok (.group [.word line]), commands := [look, pay] }
    let somebody : Address := Octets.fill 20 7
    processFirst "Core" [pay] 5 (.group [.word "pay", .word "bob"]) none = .error (.missingCaller "pay") ∧
      processFirst "Core" [pay] 5 (.group [.word "pay"]) (some somebody) = .error (.missingArgument "to" "pay") ∧
      processFirst "Core" [look] 5 (.word "look") (some somebody) =
        processFirst "Core" [look] 5 (.word "look") none ∧
      ((session.withCaller none).run 5 ["look", "pay"]).2.map (·.error) =
        [none, some (.missingArgument "to" "pay")] ∧
      (session.withCaller (some somebody)).run 5 ["look", "pay"] = (session.withCaller none).run 5 ["look", "pay"] := by
  intro receiver pay look session somebody
  obtain ⟨dispatched, scripts⟩ := @caller_reaches_bound_commands Nat Unit
  have whole : chosen? (·.pattern) (.group [.word "pay", .word "bob"]) [pay] = some pay :=
    List.find?_cons_of_pos (by decide)
  have short : chosen? (·.pattern) (.group [.word "pay"]) [pay] = some pay := List.find?_cons_of_pos (by decide)
  have missed := (dispatched "Core" [pay] 5 (.group [.word "pay", .word "bob"])).2.1 pay ⟨whole, rfl, _, rfl⟩
  have unbound := (dispatched "Core" [pay] 5 (.group [.word "pay"])).2.2 pay (.missingArgument "to" "pay") short rfl
  have unasked : ∀ command, ¬Asked [look] 5 (.word "look") command := by
    intro command asked
    have same : command = look := List.mem_singleton.mp (mem_of_chosen? asked.chosen)
    have requires := asked.requires
    rw [same] at requires
    cases requires
  have free := (dispatched "Core" [look] 5 (.word "look")).1 unasked (some somebody) none
  have errors : ((session.withCaller none).run 5 ["look", "pay"]).2.map (·.error) =
      [none, some (.missingArgument "to" "pay")] := by decide
  have unmissed : ∀ report ∈ ((session.withCaller none).run 5 ["look", "pay"]).2, ∀ name,
      report.error ≠ some (.missingCaller name) := by
    intro report member name
    have listed : report.error ∈ [none, some (.missingArgument "to" "pay")] := errors ▸ List.mem_map_of_mem member
    rcases List.mem_pair.mp listed with same | same
    · rw [same]
      nofun
    · rw [same]
      nofun
  exact ⟨missed, unbound somebody, free, errors, scripts session 5 ["look", "pay"] unmissed somebody⟩

end ChainScript
