import ChainScript.Text.Blank

/-! Documentation as it is shown: without indentation and empty lines, and with backquotes for quotes. -/

namespace ChainScript.Doc

/-- One line without its indentation, quotes replaced. -/
def cleanLine (line : List Char) : List Char :=
  (Text.trimStart line).map fun c => if c = '"' then '\x60' else c

/-- The cleaned lines that have something left. -/
def cleanLines (text : List Char) : List (List Char) :=
  ((Text.lines text).map cleanLine).filter (!·.isEmpty)

def clean (text : String) : String :=
  "\n".intercalate ((cleanLines text.toList).map String.ofList)

end ChainScript.Doc
