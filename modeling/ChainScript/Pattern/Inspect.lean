import ChainScript.Pattern.Basic

/-! A pattern with all that it declares, on one line, for diagnostics. -/

namespace ChainScript

variable {World Value : Type}

def inspectOption (text : Option String) : String :=
  match text with
  | some text => s!"Some({text})"
  | none => "None"

def Binding.inspect (render : Value → String) : Binding Value → String
  | .value bound => "Value(" ++ render bound ++ ")"
  | .list bound => "List([" ++ ", ".intercalate (bound.map render) ++ "])"
  | .nothing => "Nothing"

/-- Fields by name between braces. -/
def inspectFields (kind : String) (fields : List (String × String)) : String :=
  kind ++ " \x7b " ++ ", ".intercalate (fields.map fun field => field.1 ++ ": " ++ field.2) ++ " \x7d"

def Param.inspect (render : Value → String) (param : Param World Value) : String :=
  inspectFields "Arg"
    [("name", Text.quoted param.name),
      ("default", inspectOption (param.fallback.map (·.binding.inspect render))),
      ("implicit", toString param.implicit),
      ("variadic", toString param.variadic),
      ("mapped", toString param.mapped),
      ("nullable", toString param.nullable),
      ("rescue", inspectOption (param.rescue.map render))]

def Pattern.inspect (render : Value → String) (pattern : Pattern World Value) : String :=
  inspectFields "Expression"
    [("name", Text.quoted pattern.name),
      ("args", "[" ++ ", ".intercalate (pattern.params.map (Param.inspect render)) ++ "]"),
      ("name_pos", toString pattern.namePosition),
      ("catchall", toString pattern.catchall)]

end ChainScript
