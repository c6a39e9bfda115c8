import ChainScript.Proofs.SessionRuns

/-! A line that fails leaves no trace: a script without its failing lines runs to the same world, with the same
reports on the lines that are left. The two runs go through the lines side by side in the same worlds; only the
numbers differ. -/

namespace ChainScript

variable {World Value : Type}

/-- Reports that are counted on from this number. -/
def renumbered (number : Nat) (reports : List Report) : List Report :=
  (reports.zipIdx number).map fun entry => { entry.1 with number := entry.2 }

theorem length_renumbered (number : Nat) (reports : List Report) :
    (renumbered number reports).length = reports.length := by
  rw [renumbered, List.length_map, List.length_zipIdx]

theorem map_number_renumbered (number : Nat) (reports : List Report) :
    (renumbered number reports).map (·.number) = List.range' number reports.length := by
  rw [renumbered, List.map_map]
  exact List.zipIdx_map_snd number reports

theorem map_line_renumbered (number : Nat) (reports : List Report) :
    (renumbered number reports).map (·.line) = reports.map (·.line) := by
  calc (renumbered number reports).map (·.line)
      = ((reports.zipIdx number).map Prod.fst).map (·.line) := by rw [renumbered, List.map_map, List.map_map]; rfl
    _ = reports.map (·.line) := by rw [List.zipIdx_map_fst]

theorem mem_renumbered {number : Nat} {report : Report} {reports : List Report}
    (found : report ∈ renumbered number reports) : ∃ own ∈ reports, own.error = report.error := by
  obtain ⟨⟨own, place⟩, inside, rfl⟩ := List.mem_map.mp found
  exact ⟨own, List.fst_mem_of_mem_zipIdx inside, rfl⟩

namespace Session

def Faulty (reports : List Report) (number : Nat) : Prop :=
  ∃ report ∈ reports, report.number = number ∧ report.error ≠ none

instance (reports : List Report) : DecidablePred (Faulty reports) :=
  fun number => inferInstanceAs (Decidable (∃ report ∈ reports, report.number = number ∧ report.error ≠ none))

theorem faulty_cons_iff {report : Report} {reports : List Report} {number : Nat} :
    Faulty (report :: reports) number ↔ report.number = number ∧ report.error ≠ none ∨ Faulty reports number :=
  List.exists_mem_cons_iff ..

/-- A script without its blank lines, its comments, and the lines whose reports tell of an error. Its first line has
this number. -/
def cleared (number : Nat) (lines : List String) (reports : List Report) : List String :=
  ((lines.zipIdx number).filter fun entry => ¬Idle entry.1 ∧ ¬Faulty reports entry.2).map Prod.fst

section cleared
variable {number : Nat} {line : String} {lines : List String} {report : Report} {reports : List Report}

theorem cleared_cons_kept (busy : ¬Idle line) (faultless : ¬Faulty reports number) :
    cleared number (line :: lines) reports = line :: cleared (number + 1) lines reports := by
  rw [cleared, List.zipIdx_cons, List.filter_cons_of_pos, List.map_cons, cleared]
  exact decide_eq_true ⟨busy, faultless⟩

theorem cleared_cons_dropped (dropped : Idle line ∨ Faulty reports number) :
    cleared number (line :: lines) reports = cleared (number + 1) lines reports := by
  rw [cleared, List.zipIdx_cons, List.filter_cons_of_neg, cleared]
  rw [decide_eq_true_eq]
  rintro ⟨busy, faultless⟩
  exact dropped.elim busy faultless

theorem cleared_of_earlier (earlier : report.number < number) :
    cleared number lines (report :: reports) = cleared number lines reports := by
  unfold cleared
  congr 1
  refine List.filter_congr fun entry member => ?_
  have later : number ≤ entry.2 := List.le_snd_of_mem_zipIdx member
  have other : report.number ≠ entry.2 := Nat.ne_of_lt (Nat.lt_of_lt_of_le earlier later)
  simp only [faulty_cons_iff, other, false_and, false_or]

end cleared

variable {session : Session World Value}

theorem Runs.cleared {number : Nat} {world final : World} {lines : List String} {reports : List Report}
    (runs : session.Runs number world lines reports final) (other : Nat) :
    session.Runs other world (Session.cleared number lines reports)
      (renumbered other (reports.filter (·.succeeded))) final := by
  induction runs generalizing other with
  | nil => exact .nil
  | idle idle rest ih =>
    rw [cleared_cons_dropped (.inl idle)]
    exact ih other
  | @line number world next final line lines error reports busy settled rest ih =>
    have later : number < number + 1 := Nat.lt_succ_self number
    cases settled with
    | done evaluated =>
      -- The line has one report, and those on later lines have other numbers.
      have faultless : ¬Faulty (⟨number, bare line, none⟩ :: reports) number := by
        rw [faulty_cons_iff]
        rintro (⟨-, fails⟩ | ⟨report, member, same, -⟩)
        · exact fails rfl
        · exact absurd (rest.number_le report member) (by omega)
      rw [cleared_cons_kept busy faultless, cleared_of_earlier later]
      exact .line busy (.done evaluated) (ih (other + 1))
    | @failed error evaluated =>
      have faulty : Faulty (⟨number, bare line, some error⟩ :: reports) number :=
        faulty_cons_iff.mpr (.inl ⟨rfl, Option.some_ne_none error⟩)
      rw [cleared_cons_dropped (.inr faulty), cleared_of_earlier later]
      exact ih other

/-- Without blank lines, comments and failing lines, a script gives the same world as with them. Its reports are those
of the lines that did not fail, in the same order, without an error, and numbered from one on. -/
theorem run_cleared (session : Session World Value) (world : World) (lines : List String) :
    let whole := session.run world lines
    let script := cleared 1 lines whole.2
    let again := session.run world script
    again.1 = whole.1 ∧ (∀ report ∈ again.2, report.error = none) ∧
      again.2.map (·.line) = (whole.2.filter (·.succeeded)).map (·.line) ∧
      again.2.map (·.number) = List.range' 1 again.2.length := by
  intro whole script again
  have runs := (session.runs_runFrom 1 world lines).cleared 1
  have same : again = (whole.1, renumbered 1 (whole.2.filter (·.succeeded))) := runFrom_of_runs runs
  rw [same]
  refine ⟨rfl, ?_, map_line_renumbered 1 _, ?_⟩
  · intro report found
    obtain ⟨own, member, told⟩ := mem_renumbered found
    have succeeded : own.succeeded = true := List.of_mem_filter member
    rw [← told]
    exact Option.isNone_iff_eq_none.mp succeeded
  · rw [map_number_renumbered, length_renumbered]

/-- The third line fails, and the one behind it is run in the world that the first has left. -/
theorem run_cleared_stop :
    let count : Pattern Nat Unit := { name := "count", doc := "", params := [], catchall := true, slots_agree := rfl }
    let session : Session Nat Unit :=
      { kind := "Core"
        parse := fun line => if line = "stop" then .error (.parsing line) else .ok (.group [])
        commands := [⟨count, .view fun _ => .ok fun counted => .ok (counted + 1)⟩] }
    let whole := session.run 5 ["go", "-- on", "stop", " go"]
    whole.2.map (·.error) = [none, some (.parsing "stop"), none] ∧
      cleared 1 ["go", "-- on", "stop", " go"] whole.2 = ["go", " go"] ∧
      (session.run 5 ["go", " go"]).1 = 7 ∧ (session.run 5 ["go", " go"]).2.map (·.number) = [1, 2] := by
  intro count session whole
  have errors : whole.2.map (·.error) = [none, some (.parsing "stop"), none] := by decide
  have script : cleared 1 ["go", "-- on", "stop", " go"] whole.2 = ["go", " go"] := by decide
  obtain ⟨final, -, lines, numbers⟩ := run_cleared session 5 ["go", "-- on", "stop", " go"]
  rw [script] at final lines numbers
  have both : (session.run 5 ["go", " go"]).2.length = 2 := by
    rw [← List.length_map, lines]
    decide
  rw [both] at numbers
  exact ⟨errors, script, final, numbers⟩

end Session

end ChainScript
