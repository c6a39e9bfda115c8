import ChainScript.Ledger.Basic
import ChainScript.Session

/-! Commands and queries of the ledger, described by data. The value of a parameter can itself be asked from
the queries of the catalog, so a query may contain queries. -/

namespace ChainScript

/-- Where the value of a parameter comes from. -/
inductive Source where
  | token
  | number
  | flag
  | address
  /-- The word as it is written. -/
  | required
  /-- The word as it is written, or a mark that there is none. -/
  | rendered
  /-- The two members of a group. -/
  | pair
  /-- The tokens of a group. -/
  | tokens
  /-- The answer of a query of the catalog. -/
  | query
  /-- A source that always fails. -/
  | broken
deriving DecidableEq

structure ParamSpec extends Slot where
  source : Source := .token
  fallback : Option (Fallback Datum) := none
  rescue : Option Datum := none

structure PatternSpec where
  name : String
  doc : String := ""
  params : List ParamSpec := []
  namePosition : Nat := 0
  catchall : Bool := false

inductive Action where
  | transfer
  | mint
  | setAlias
  | refuse
  | note
deriving DecidableEq

inductive Question where
  | balance
  | total
  | first
  | count
  | present
  | refuse
  | echo
deriving DecidableEq

structure CommandSpec extends PatternSpec where
  action : Action := .note
  /-- Needs no caller. A transfer needs one in any case. -/
  view : Bool := false

structure QuerySpec extends PatternSpec where
  question : Question := .echo

namespace Source

/-- Asks an inner query for the value of an event. -/
abbrev Inquiry := Ledger → Event → Except ScriptError Datum

def read (source : Source) (param : String) (inquire : Inquiry) : Reader Ledger Datum := fun world word =>
  match source with
  | token => .text <$> Reader.token word
  | number => .number <$> Reader.number word
  | flag => .flag <$> Reader.flag word
  | address => .address <$> Reader.address world word
  | required => do
    let event ← Reader.required word
    return .text event.toString
  | rendered =>
    match word with
    | some event => .ok (.text event.toString)
    | none => .ok (.text "<none>")
  | pair => do
    let event ← Reader.required word
    let members ← (event.requireLength 2 none).mapError .shape
    return .text ("|".intercalate (Event.toStrings members))
  | tokens => do
    let event ← Reader.required word
    let members ← event.items.mapM fun member => member.requireWord.mapError .shape
    return .text ("+".intercalate members)
  | query => do
    let event ← Reader.required word
    inquire world event
  | broken => .error (.reading (.other s!"extractor {param} failed"))

/-- The source of a name; an unknown name always fails. -/
def ofName : String → Source
  | "atom" => token
  | "uint" => number
  | "bool" => flag
  | "address" => address
  | "required" => required
  | "render" => rendered
  | "pair" => pair
  | "strings" => tokens
  | "value" => query
  | _ => broken

end Source

def ParamSpec.toParam (spec : ParamSpec) (inquire : Source.Inquiry) : Param Ledger Datum where
  toSlot := spec.toSlot
  read := spec.source.read spec.name inquire
  fallback := spec.fallback
  rescue := spec.rescue

def PatternSpec.toPattern (spec : PatternSpec) (inquire : Source.Inquiry) :
    Except ScriptError (Pattern Ledger Datum) := do
  let pattern ← Pattern.make spec.doc spec.name (spec.params.map (·.toParam inquire))
  return { pattern with namePosition := spec.namePosition, catchall := spec.catchall }

def Binding.toString : Binding Datum → String
  | .value datum => datum.toString
  | .list data => "[" ++ ",".intercalate (data.map (·.toString)) ++ "]"
  | .nothing => "~"

/-- The entries of a record as a log writes them; a name that occurs again is written with its first entry. -/
def Record.toString (record : Record Datum) : String :=
  ";".intercalate (record.names.map fun name => name ++ "=" ++ ((record.get? name).map (·.toString)).getD "")

namespace Action

open LedgerFault

def readAddress (param : String) : Reading Datum Address := do
  match ← Record.value param with
  | .address address => return address
  | _ => throw (notAddress param).toError

def readNumber (param : String) : Reading Datum Word := do
  match ← Record.value param with
  | .number word => return word
  | _ => throw (notNumber param).toError

/-- The receiver and the amount of a movement. -/
def readMovement : Reading Datum (Address × Word) := do
  let receiver ← readAddress "to"
  let amount ← readNumber "amount"
  return (receiver, amount)

/-- What an action does for a caller, if there is one. A transfer takes from its caller and is done apart. -/
def perform (action : Action) (name : String) (record : Record Datum) (caller : Option Address)
    (world : Ledger) : Except ScriptError Ledger :=
  match action with
  | mint => do
    let (receiver, amount) ← record.read readMovement
    (world.credit receiver amount).mapError toError
  | setAlias => do
    let (name, target) ← record.read do
      let name ← Record.value "alias"
      let target ← readAddress "target"
      return (name.toString, target)
    return world.setAlias name target
  | refuse => .error (refused name).toError
  | _ =>
    let actor := (caller.map (·.toString)).getD "none"
    .ok (world.write (name ++ "[" ++ actor ++ "]" ++ record.toString))

def processor (action : Action) (name : String) (view : Bool) : Processor Ledger Datum :=
  match action with
  | transfer => .caller fun record => do
    let (receiver, amount) ← record.read readMovement
    return fun world caller => (world.transfer caller receiver amount).mapError toError
  | _ =>
    if view then .view fun record => .ok (action.perform name record none)
    else .caller fun record => .ok fun world caller => action.perform name record (some caller) world

/-- The action of a name; any other name is a note in the log. -/
def ofName : String → Action
  | "transfer" => transfer
  | "mint" => mint
  | "alias" => setAlias
  | "fail" => refuse
  | _ => note

end Action

namespace Question

open LedgerFault

/-- The answer about a record; `first` is the name of the first parameter. -/
def answer (question : Question) (name first : String) (world : Ledger) (record : Record Datum) :
    Except ScriptError Datum :=
  match question with
  | balance => do
    match ← record.read (Record.value "account") with
    | .address account => return .number (world.balance account)
    | _ => throw noAddress.toError
  | total => .number <$> world.total.mapError toError
  | Question.first => record.read (Record.value first)
  | count => do
    let values ← record.read (Record.list first)
    return .number (BitVec.ofNat 256 values.length)
  | present => do
    let value ← record.read (Record.optional first)
    return .flag value.isSome
  | refuse => .error (refused name).toError
  | echo => .ok (.text (name ++ ":" ++ record.toString))

/-- The question of a name; any other name asks for an echo of what was bound. -/
def ofName : String → Question
  | "balance" => balance
  | "total" => total
  | "first" => Question.first
  | "count" => count
  | "present" => present
  | "fail" => refuse
  | _ => echo

end Question

def CommandSpec.toCommand (spec : CommandSpec) (inquire : Source.Inquiry) :
    Except ScriptError (Command Ledger Datum) := do
  let pattern ← spec.toPattern inquire
  return { pattern, processor := spec.action.processor spec.name spec.view }

def QuerySpec.toQuery (spec : QuerySpec) (inquire : Source.Inquiry) :
    Except ScriptError (Query Ledger Datum Datum) := do
  let pattern ← spec.toPattern inquire
  let first := ((spec.params.head?).map (·.name)).getD "?"
  return { pattern, answer := spec.question.answer spec.name first }

namespace Catalog

/-- The answer of the queries to an event, with at most `depth` queries inside one another. -/
def answerWithin (specs : List QuerySpec) : (depth : Nat) → Source.Inquiry
  | 0, _, _ => .error (.reading (.other "queries nested without end"))
  | depth + 1, world, event => do
    let queries ← specs.mapM (·.toQuery (answerWithin specs depth))
    Query.askFirst "Value" queries world event

/-- The answer of the queries to an event. A query passes on less than it was asked, but for one step from a
word to an empty group, so the size of the event bounds how deep queries go unless they go on forever. -/
def inquire (specs : List QuerySpec) : Source.Inquiry := fun world event =>
  answerWithin specs (event.size + 2) world event

def queries (specs : List QuerySpec) : Except ScriptError (List (Query Ledger Datum Datum)) :=
  specs.mapM (·.toQuery (inquire specs))

def commands (queries : List QuerySpec) (specs : List CommandSpec) :
    Except ScriptError (List (Command Ledger Datum)) :=
  specs.mapM (·.toCommand (inquire queries))

end Catalog

/-- The parser of plain lines: `known` lines have their event given, others are words apart by blanks. -/
def parsePlain (known : List (String × Event)) (line : String) : Except ScriptError Event :=
  match known.lookup line with
  | some event => .ok event
  | none =>
    if line.toList.contains '(' then .error (.parsing s!"nested groups unsupported: {line}")
    else .ok (.group ((Text.words line.toList).map fun word => .word (String.ofList word)))

end ChainScript
