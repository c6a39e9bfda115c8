import ChainScript.Reader
import ChainScript.Pattern.Record
import ChainScript.Pattern.Doc
import ChainScript.Text.Quoted

/-! A pattern recognises an event by one word, its name, and declares parameters for the others. Whether the
slots of the parameters can stand together is checked when the pattern is made. -/

namespace ChainScript

/-- What a parameter is bound to when no word is left for it. It is never bound to nothing in this way. -/
inductive Fallback (Value : Type) where
  | value (value : Value)
  | list (values : List Value)
deriving DecidableEq

def Fallback.binding {Value : Type} : Fallback Value → Binding Value
  | .value bound => .value bound
  | .list bound => .list bound

def Binding.fallback? {Value : Type} : Binding Value → Option (Fallback Value)
  | .value bound => some (.value bound)
  | .list bound => some (.list bound)
  | .nothing => none

/-- What was read as a binding can be declared as a default, unless it is nothing. -/
instance {Value : Type} : Coe (Option (Binding Value)) (Option (Fallback Value)) :=
  ⟨(·.bind Binding.fallback?)⟩

/-- A slot, the reader of its words, and what stands in for them. -/
structure Param (World Value : Type) extends Slot where
  read : Reader World Value
  /-- How often the reader has to be asked again before its answer is there. -/
  wait : World → Option Event → Nat := fun _ _ => 0
  /-- Bound when no word is left. -/
  fallback : Option (Fallback Value) := none
  /-- Bound when the reader fails. -/
  rescue : Option Value := none

/-- A pattern as it is listed in the documentation of another. -/
structure Summary where
  name : String
  doc : String
deriving DecidableEq

structure Pattern (World Value : Type) where
  name : String
  doc : String
  params : List (Param World Value)
  /-- The place of the name among the members of an event. -/
  namePosition : Nat := 0
  /-- Recognises every event and has no name word in it. -/
  catchall : Bool := false
  related : List Summary := []
  slots_agree : SlotFault.find? (params.map (·.toSlot)) = none

namespace Pattern

variable {World Value : Type}

/-- A pattern with these parameters, if their slots can stand together. -/
def make (doc name : String) (params : List (Param World Value)) :
    Except ScriptError (Pattern World Value) :=
  match agree : SlotFault.find? (params.map (·.toSlot)) with
  | none => .ok { name, doc := Doc.clean doc, params, slots_agree := agree }
  | some fault => .error (.badSlots name fault)

def summary (pattern : Pattern World Value) : Summary :=
  ⟨pattern.name, pattern.doc⟩

/-- The documentation of the pattern and, line after line, of the patterns listed with it. -/
def help (pattern : Pattern World Value) : String :=
  "\n".intercalate (pattern.doc :: pattern.related.map (·.doc))

/-- The name word of an event, if there is one, and the other members. A catchall takes all members. -/
def split (pattern : Pattern World Value) (event : Event) : Option String × List Event :=
  let members := event.unwrap.items
  if pattern.catchall then (some pattern.name, members)
  else match members[pattern.namePosition]? with
    | some (.word token) => (some token, members.eraseIdx pattern.namePosition)
    | _ => (none, members)

/-- Whether two names are the same but for case and margins. -/
def sameName (left right : String) : Bool :=
  Text.lowercase (Text.trim left.toList) = Text.lowercase (Text.trim right.toList)

def recognises (pattern : Pattern World Value) (event : Event) : Bool :=
  pattern.catchall ||
    match (pattern.split event).1 with
    | some token => sameName token pattern.name
    | none => false

end Pattern

end ChainScript
