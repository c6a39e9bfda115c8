import ChainScript.Pattern.Basic

/-! Binding gives the words of an event to the parameters of a pattern, in order. Each parameter sees the
words that the ones before it have left; the first that fails ends the binding. The members that a mapped
parameter reads are read at the same time, so which of their failures is seen first depends on how long each
of them takes. -/

namespace ChainScript

variable {World Value : Type}

/-- The values of events that are read at the same time, or the failure that is seen first and the round in which
it is seen. The answers of one round are looked at in the order of the events. -/
def readTogether (read : Event → Except ScriptError Value) (round : Event → Nat) :
    List Event → Except (Nat × ScriptError) (List Value)
  | [] => .ok []
  | event :: rest =>
    match read event, readTogether read round rest with
    | .ok value, .ok values => .ok (value :: values)
    | .ok _, .error later => .error later
    | .error cause, .ok _ => .error (round event, cause)
    | .error cause, .error later => .error (if later.1 < round event then later else (round event, cause))

namespace Param

/-- The round in which an answer is looked at, when so many events are read. Up to thirty are looked at as soon as they
are there; the answers of more events are kept until those before them are there, so only their order counts. -/
def round (param : Param World Value) (world : World) (count : Nat) (event : Event) : Nat :=
  if count ≤ 30 then param.wait world (some event) else 0

/-- The values of the events, or the failure among them that is seen first. -/
def readEach (param : Param World Value) (world : World) (events : List Event) :
    Except ScriptError (List Value) :=
  (readTogether (fun event => param.read world (some event)) (param.round world events.length) events).mapError
    Prod.snd

/-- What one word gives: its members' values if the parameter is mapped, else its own. -/
def readWord (param : Param World Value) (world : World) (word : Event) :
    Except ScriptError (Binding Value) :=
  if param.mapped then .list <$> param.readEach world word.items
  else .value <$> param.read world (some word)

/-- What is bound in place of a word that cannot be read. -/
def rescued? (param : Param World Value) : Option (Binding Value) :=
  param.rescue.map fun value => if param.mapped then .list [value] else .value value

/-- What a positional parameter is bound to for its word. -/
def bindWord (param : Param World Value) (world : World) (word : Event) :
    Except ScriptError (Binding Value) :=
  match param.readWord world word, param.rescued? with
  | .error _, some binding => .ok binding
  | outcome, _ => outcome

/-- What a variadic parameter is bound to for the words that are left. -/
def bindRest (param : Param World Value) (world : World) (words : List Event) :
    Except ScriptError (Binding Value) :=
  if param.mapped then .list <$> param.readEach world words
  else .value <$> param.read world (some (.group words))

/-- What the parameter is bound to, and the words it leaves. -/
def bind (param : Param World Value) (owner : String) (world : World) (words : List Event) :
    Except ScriptError (Binding Value × List Event) :=
  if param.nullable && words.isEmpty then .ok (.nothing, [])
  else if param.variadic then do
    return (← param.bindRest world words, [])
  else if param.implicit then do
    return (.value (← param.read world none), words)
  else match words with
    | [] =>
      match param.fallback with
      | some fallback => .ok (fallback.binding, [])
      | none => .error (.missingArgument param.name owner)
    | word :: rest => do
      return (← param.bindWord world word, rest)

end Param

namespace Pattern

/-- The entries of the parameters for these words, and the words that are left in the end. -/
def bindParams (owner : String) (world : World) :
    List (Param World Value) → List Event → Except ScriptError (List (String × Binding Value) × List Event)
  | [], words => .ok ([], words)
  | param :: params, words => do
    let (binding, rest) ← param.bind owner world words
    let (entries, leftover) ← bindParams owner world params rest
    return ((param.name, binding) :: entries, leftover)

/-- The record of an event's words; no word may be left over. -/
def bind (pattern : Pattern World Value) (world : World) (event : Event) :
    Except ScriptError (Record Value) := do
  let (entries, leftover) ← bindParams pattern.name world pattern.params (pattern.split event).2
  if leftover.isEmpty then return ⟨entries⟩
  else throw (.extraArguments pattern.name leftover)

end Pattern

end ChainScript
