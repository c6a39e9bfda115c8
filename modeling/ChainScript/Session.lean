import ChainScript.Dispatch

/-! A session runs a script line by line. A line that fails is reported and leaves the world to the next one
as it was; blank lines and comments are passed over. -/

namespace ChainScript

variable {World Value : Type}

structure Session (World Value : Type) where
  /-- What the commands are called in reports. -/
  kind : String
  parse : String → Except ScriptError Event
  commands : List (Command World Value)
  caller : Option Address := none

/-- The outcome of one line. -/
structure Report where
  /-- The place of the line in the script, counted from one. -/
  number : Nat
  line : String
  error : Option ScriptError
deriving DecidableEq

def Report.succeeded (report : Report) : Bool :=
  report.error.isNone

namespace Session

def eval (session : Session World Value) (world : World) (line : String) : Except ScriptError World := do
  let event ← session.parse line
  Command.processFirst session.kind session.commands world event session.caller

/-- The text of a line that is to be run, without its margins. -/
def statement? (line : String) : Option String :=
  let text := Text.trim line.toList
  if text.isEmpty || "--".toList.isPrefixOf text then none else some (String.ofList text)

/-- Runs lines whose first has this number. -/
def runFrom (session : Session World Value) (number : Nat) (world : World) :
    List String → World × List Report
  | [] => (world, [])
  | line :: rest =>
    match statement? line with
    | none => session.runFrom (number + 1) world rest
    | some text =>
      match session.eval world text with
      | .ok next =>
        let (final, reports) := session.runFrom (number + 1) next rest
        (final, ⟨number, text, none⟩ :: reports)
      | .error error =>
        let (final, reports) := session.runFrom (number + 1) world rest
        (final, ⟨number, text, some error⟩ :: reports)

/-- The world after all lines, and a report on each that was run. -/
def run (session : Session World Value) (world : World) (lines : List String) : World × List Report :=
  session.runFrom 1 world lines

end Session

end ChainScript
