import ChainScript.Pattern.Bind

/-! Commands change a world and queries look at it. An event goes to the first of a list that recognises it,
so a catchall hides everything behind it. -/

namespace ChainScript

variable {World Value Result : Type}

/-- What a command does with its record. The record is read before the caller is looked at, so a record of
the wrong shape is reported even when the caller is missing. -/
inductive Processor (World Value : Type) where
  /-- Acts in the name of a caller. -/
  | caller (prepare : Record Value → Except ScriptError (World → Address → Except ScriptError World))
  /-- Needs no caller. -/
  | view (prepare : Record Value → Except ScriptError (World → Except ScriptError World))

structure Command (World Value : Type) where
  pattern : Pattern World Value
  processor : Processor World Value

namespace Command

def requiresCaller (command : Command World Value) : Bool :=
  match command.processor with
  | .caller _ => true
  | .view _ => false

/-- Binds the event, looks for the caller if one is needed, and acts; the first of these that fails ends
the command. -/
def process (command : Command World Value) (world : World) (caller : Option Address) (event : Event) :
    Except ScriptError World := do
  let record ← command.pattern.bind world event
  match command.processor with
  | .view prepare =>
    let act ← prepare record
    act world
  | .caller prepare =>
    let act ← prepare record
    match caller with
    | some address => act world address
    | none => throw (.missingCaller command.pattern.name)

/-- Runs the first command that recognises the event. -/
def processFirst (kind : String) (commands : List (Command World Value)) (world : World) (event : Event)
    (caller : Option Address) : Except ScriptError World :=
  match commands.find? (·.pattern.recognises event) with
  | some command => command.process world caller event
  | none => .error (.unknownEvent kind event)

end Command

structure Query (World Value Result : Type) where
  pattern : Pattern World Value
  answer : World → Record Value → Except ScriptError Result

namespace Query

def ask (query : Query World Value Result) (world : World) (event : Event) : Except ScriptError Result := do
  let record ← query.pattern.bind world event
  query.answer world record

/-- Asks the first query that recognises the event. -/
def askFirst (kind : String) (queries : List (Query World Value Result)) (world : World) (event : Event) :
    Except ScriptError Result :=
  match queries.find? (·.pattern.recognises event) with
  | some query => query.ask world event
  | none => .error (.unknownEvent kind event)

end Query

end ChainScript
