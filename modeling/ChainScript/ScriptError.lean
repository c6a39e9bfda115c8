import ChainScript.Event
import ChainScript.Pattern.Slot

/-! Why a line of a script comes to nothing. Each cause keeps the names and events it is about; the wording
is in `message`. -/

namespace ChainScript

/-- Why a word does not give the value that a parameter needs. -/
inductive ReadingFault where
  | noWord
  | notNumber (token : String)
  | notFlag (token : String)
  | unknownAddress (token : String)
  /-- A reader's own reason. -/
  | other (reason : String)
deriving DecidableEq

def ReadingFault.message : ReadingFault → String
  | noWord => "expected an argument, got none"
  | notNumber token => s!"expected number, got {token}"
  | notFlag token => s!"expected boolean, got {token}"
  | unknownAddress token => s!"unknown address or alias {token}"
  | other reason => reason

/-- What the reader of a record asks an entry to be. -/
inductive Expectation where
  | value
  | list
  | valueOrNothing
deriving DecidableEq

def Expectation.phrase : Expectation → String
  | value => "a single value"
  | list => "a list of values"
  | valueOrNothing => "a single value or nothing"

inductive ScriptError where
  /-- No word is left for a parameter that needs one. -/
  | missingArgument (param pattern : String)
  /-- Words are left after every parameter was bound. -/
  | extraArguments (pattern : String) (leftover : List Event)
  /-- Nothing in the list that was searched recognises the event. -/
  | unknownEvent (kind : String) (event : Event)
  | missingCaller (command : String)
  | badSlots (pattern : String) (fault : SlotFault)
  | unexpectedBinding (param : String) (expected : Expectation)
  | unbound (param : String)
  | reading (fault : ReadingFault)
  /-- A command or query refuses, for its own reason. -/
  | processing (reason : String)
  /-- The line is no event. -/
  | parsing (reason : String)
  | shape (fault : Event.ShapeFault)
deriving DecidableEq

def ScriptError.message : ScriptError → String
  | missingArgument param pattern => s!"missing argument {param} when processing {pattern}"
  | extraArguments pattern leftover =>
    let rendered := ",".intercalate (Event.toStrings leftover)
    s!"found extra args: {rendered} when processing {pattern}"
  | unknownEvent kind event => s!"found unknown {kind} event type {event.toString}"
  | missingCaller command =>
    s!"from required but not given for {command}. please set a default alias or open unlocked account"
  | badSlots pattern fault => s!"invalid argument schema for {pattern}: {fault.message}"
  | unexpectedBinding param expected => s!"argument {param}: expected {expected.phrase}"
  | unbound param => s!"argument {param} was not bound"
  | reading fault => fault.message
  | processing reason => reason
  | parsing reason => s!"parse error: {reason}"
  | shape fault => fault.message

end ChainScript
