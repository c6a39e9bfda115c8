import ChainScript.Toml.Parser

/-! Documents written line by line, each with a name, an equals sign and a value that needs neither quotes nor brackets.
Such a line is one statement, whatever follows it, so a document of them holds their values under their names. -/

namespace ChainScript.Toml

/-- A name that stands without quotes. -/
structure PlainName (name : List Char) : Prop where
  some : name ≠ []
  each : name.all isNameChar = true

/-- Characters that start a value in quotes or brackets. -/
def openings : List Char :=
  ['"', '\'', '[', '\x7b']

/-- The spelling of a value that needs neither quotes nor brackets. -/
structure PlainValue (spelling : List Char) (value : Toml) : Prop where
  opens : ∃ c rest, spelling = c :: rest ∧ c ∉ openings
  each : spelling.all (!endsBare ·) = true
  reads : bare? spelling = some value

/-- Texts of such lines, and what stands in them. -/
inductive Written : List Char → Members → Prop where
  | nil : Written [] []
  | line {name spelling text : List Char} {value : Toml} {members : Members} (named : PlainName name)
      (spelled : PlainValue spelling value) (rest : Written text members) :
      Written (name ++ ' ' :: '=' :: ' ' :: (spelling ++ '\n' :: text)) ((String.ofList name, value) :: members)

theorem Written.append {text more : List Char} {members others : Members} (first : Written text members)
    (second : Written more others) : Written (text ++ more) (members ++ others) := by
  induction first with
  | nil => exact second
  | line named spelled rest ih =>
    have whole := Written.line named spelled ih
    simp only [← List.cons_append, ← List.append_assoc] at whole ⊢
    exact whole

variable {name spelling : List Char} {value : Toml}

end ChainScript.Toml
