import ChainScript.ScriptError

/-! What the parameters of a pattern were bound to, in the order of their declaration. Commands take entries
out by name; the first entry of a name goes first, and it is gone even if it is not what was asked for. -/

namespace ChainScript

/-- What one parameter was bound to. -/
inductive Binding (Value : Type) where
  | value (value : Value)
  | list (values : List Value)
  /-- A nullable parameter for which no word was left. -/
  | nothing
deriving DecidableEq

/-- Bound parameters by name. -/
structure Record (Value : Type) where
  entries : List (String × Binding Value) := []
deriving DecidableEq

/-- A computation that takes entries out of a record and may fail on the way. -/
abbrev Reading (Value : Type) := ExceptT ScriptError (StateM (Record Value))

namespace Record

variable {Value : Type}

def names (record : Record Value) : List String :=
  record.entries.map (·.1)

def size (record : Record Value) : Nat :=
  record.entries.length

def insert (record : Record Value) (name : String) (binding : Binding Value) : Record Value :=
  ⟨record.entries ++ [(name, binding)]⟩

/-- The first entry of a name. -/
def get? (record : Record Value) (name : String) : Option (Binding Value) :=
  (record.entries.find? (·.1 = name)).map (·.2)

/-- Takes out the first entry of a name. -/
def take (name : String) : Reading Value (Binding Value) := fun record =>
  match record.get? name with
  | some binding => (.ok binding, ⟨record.entries.eraseP (·.1 = name)⟩)
  | none => (.error (.unbound name), record)

def value (name : String) : Reading Value Value := do
  match ← take name with
  | .value value => return value
  | _ => throw (.unexpectedBinding name .value)

def list (name : String) : Reading Value (List Value) := do
  match ← take name with
  | .list values => return values
  | _ => throw (.unexpectedBinding name .list)

def optional (name : String) : Reading Value (Option Value) := do
  match ← take name with
  | .value value => return some value
  | .nothing => return none
  | .list _ => throw (.unexpectedBinding name .valueOrNothing)

/-- The result of a reading that starts from this record. -/
def read {Result : Type} (record : Record Value) (reading : Reading Value Result) :
    Except ScriptError Result :=
  (reading.run record).1

private theorem bind_of_run {Middle Result : Type} {step : StateM (Record Value) Middle} {record rest : Record Value}
    {middle : Middle} (first : step record = (middle, rest)) (next : Middle → StateM (Record Value) Result) :
    (step >>= next) record = next middle rest := by
  change StateT.bind step next record = _
  rw [StateT.bind, first]
  rfl

section
variable {Middle Result : Type} {reading : Reading Value Middle} {record rest : Record Value}

theorem run_bind {middle : Middle} (first : reading.run record = (.ok middle, rest))
    (next : Middle → Reading Value Result) : (reading >>= next).run record = (next middle).run rest := by
  rw [ExceptT.run_bind]
  exact bind_of_run first _

theorem run_bind_error {fault : ScriptError} (first : reading.run record = (.error fault, rest))
    (next : Middle → Reading Value Result) : (reading >>= next).run record = (.error fault, rest) := by
  rw [ExceptT.run_bind]
  exact bind_of_run first _

theorem run_map (change : Middle → Result) :
    (change <$> reading).run record = ((reading.run record).1.map change, (reading.run record).2) := by
  rw [ExceptT.run_map]
  rfl

end

theorem run_take {record : Record Value} {name : String} {binding : Binding Value}
    (first : record.get? name = some binding) :
    (take name).run record = (.ok binding, ⟨record.entries.eraseP (·.1 = name)⟩) := by
  change take name record = _
  rw [take, first]

theorem run_take_of_none {record : Record Value} {name : String} (none : record.get? name = none) :
    (take name).run record = (.error (.unbound name), record) := by
  change take name record = _
  rw [take, none]

end Record

end ChainScript
