import ChainScript.Toml.Scalar

/-! TOML documents read from text. Each reader returns what it has read and the rest of the text. -/

namespace ChainScript.Toml

def isSpace (c : Char) : Bool :=
  c = ' ' || c = '\t'

def skipSpaces (input : List Char) : List Char :=
  input.dropWhile isSpace

/-- Whether a character may stand in texts and comments: any but the controls, of which a tab is allowed. -/
def isPrintable (c : Char) : Bool :=
  c = '\t' || (0x20 ≤ c.toNat && c.toNat ≠ 0x7F)

/-- What follows a line end. -/
def afterLineEnd? : List Char → Option (List Char)
  | '\n' :: rest => some rest
  | '\r' :: '\n' :: rest => some rest
  | _ => none

/-- What follows a comment, if one stands in front. -/
def skipComment (input : List Char) : List Char :=
  match input with
  | '#' :: rest => rest.dropWhile isPrintable
  | _ => input

/-- What follows the end of a statement: spaces, a comment, and the end of the line or of the text. -/
def afterStatement? (input : List Char) : Option (List Char) :=
  match skipComment (skipSpaces input) with
  | [] => some []
  | rest => afterLineEnd? rest

/-- Passes over blanks, line ends and comments; a comment must end in a line end. -/
def skipGaps? (steps : Nat) (input : List Char) : Option (List Char) :=
  match steps with
  | 0 => some input
  | steps + 1 =>
    match skipSpaces input with
    | '#' :: rest => afterLineEnd? (skipComment ('#' :: rest)) >>= skipGaps? steps
    | '\n' :: rest => skipGaps? steps rest
    | '\r' :: rest => afterLineEnd? ('\r' :: rest) >>= skipGaps? steps
    | rest => some rest

/-- The character with a number, unless the number belongs to none. -/
def charOf? (code : Nat) : Option Char :=
  if code.isValidChar then some (Char.ofNat code) else none

/-- The character of an escape whose backslash has been read, and what follows it. -/
def readEscape? : List Char → Option (Char × List Char)
  | 'b' :: rest => some ('\x08', rest)
  | 't' :: rest => some ('\t', rest)
  | 'n' :: rest => some ('\n', rest)
  | 'f' :: rest => some ('\x0c', rest)
  | 'r' :: rest => some ('\r', rest)
  | '"' :: rest => some ('"', rest)
  | '\\' :: rest => some ('\\', rest)
  | 'u' :: rest => readCode? 4 rest
  | 'U' :: rest => readCode? 8 rest
  | _ => none
where
  /-- The character whose number is written with exactly `count` hexadecimal digits. -/
  readCode? (count : Nat) (input : List Char) : Option (Char × List Char) := do
    let digits := input.take count
    if digits.length ≠ count then none
    else
      let c ← Text.hexNumber? digits >>= charOf?
      return (c, input.drop count)

/-- A text in double quotes, on one line, whose opening quote has been read. -/
def readBasic? (steps : Nat) (input : List Char) : Option (List Char × List Char) :=
  match steps, input with
  | 0, _ | _, [] => none
  | _, '"' :: rest => some ([], rest)
  | steps + 1, '\\' :: rest => do
    let (c, rest) ← readEscape? rest
    let (chars, rest) ← readBasic? steps rest
    return (c :: chars, rest)
  | steps + 1, c :: rest =>
    if isPrintable c then do
      let (chars, rest) ← readBasic? steps rest
      return (c :: chars, rest)
    else none

/-- A text in single quotes, on one line, whose opening quote has been read. -/
def readLiteral? : List Char → Option (List Char × List Char)
  | [] => none
  | '\'' :: rest => some ([], rest)
  | c :: rest =>
    if isPrintable c then do
      let (chars, rest) ← readLiteral? rest
      return (c :: chars, rest)
    else none

/-- The quotes of a text that stand right before its three closing ones: of a run, at most two. -/
def closing? (quote : Char) (input : List Char) : Option (List Char × List Char) :=
  let run := (input.takeWhile (· = quote)).length
  if 3 ≤ run then
    let inside := min run 5 - 3
    some (List.replicate inside quote, input.drop (inside + 3))
  else none

/-- What follows a backslash that joins lines: spaces, a line end, and any blanks and line ends after it. -/
def afterJoin? (input : List Char) : Option (List Char) :=
  (afterLineEnd? (skipSpaces input)).map skipLines
where
  skipLines : List Char → List Char
    | '\r' :: '\n' :: rest => skipLines rest
    | c :: rest => if isSpace c || c = '\n' then skipLines rest else c :: rest
    | [] => []

/-- A text over several lines, whose three opening quotes have been read. Only in double quotes does a
backslash stand for something else. -/
def readLong? (quote : Char) (steps : Nat) (input : List Char) : Option (List Char × List Char) :=
  match steps with
  | 0 => none
  | steps + 1 =>
    match closing? quote input with
    | some closed => some closed
    | none =>
      match input with
      | [] => none
      | '\\' :: rest =>
        if quote = '"' then
          match afterJoin? rest with
          | some rest => readLong? quote steps rest
          | none => do
            let (c, rest) ← readEscape? rest
            let (chars, rest) ← readLong? quote steps rest
            return (c :: chars, rest)
        else do
          let (chars, rest) ← readLong? quote steps rest
          return ('\\' :: chars, rest)
      | c :: rest =>
        match afterLineEnd? input with
        | some rest => do
          let (chars, rest) ← readLong? quote steps rest
          return ('\n' :: chars, rest)
        | none =>
          if isPrintable c then do
            let (chars, rest) ← readLong? quote steps rest
            return (c :: chars, rest)
          else none

/-- A line end right after the opening quotes is no part of the text. -/
def skipFirstLineEnd (input : List Char) : List Char :=
  (afterLineEnd? input).getD input

/-- A text in any of the four kinds of quotes. -/
def readQuoted? (input : List Char) : Option (String × List Char) := do
  let (chars, rest) ← match input with
    | '"' :: '"' :: '"' :: rest => readLong? '"' (rest.length + 1) (skipFirstLineEnd rest)
    | '\'' :: '\'' :: '\'' :: rest => readLong? '\'' (rest.length + 1) (skipFirstLineEnd rest)
    | '"' :: rest => readBasic? (rest.length + 1) rest
    | '\'' :: rest => readLiteral? rest
    | _ => none
  return (String.ofList chars, rest)

def isNameChar (c : Char) : Bool :=
  ('a' ≤ c && c ≤ 'z') || ('A' ≤ c && c ≤ 'Z') || Text.isDigit c || c = '_' || c = '-'

/-- A name between the dots of a dotted name. Quoted names stand on one line. -/
def readSimpleName? (input : List Char) : Option (String × List Char) :=
  match input with
  | '"' :: rest => (readBasic? (rest.length + 1) rest).map fun (chars, rest) => (String.ofList chars, rest)
  | '\'' :: rest => (readLiteral? rest).map fun (chars, rest) => (String.ofList chars, rest)
  | _ =>
    let name := input.takeWhile isNameChar
    if name.isEmpty then none else some (String.ofList name, input.dropWhile isNameChar)

/-- A dotted name of at most `parts` parts, with the spaces around each. -/
def readName? (parts : Nat) (input : List Char) : Option (List String × List Char) :=
  match parts with
  | 0 => none
  | parts + 1 => do
    let (name, rest) ← readSimpleName? (skipSpaces input)
    match skipSpaces rest with
    | '.' :: rest => do
      let (names, rest) ← readName? parts rest
      return (name :: names, rest)
    | rest => some ([name], rest)

/-- How deep values may stand in one another, and how many parts a dotted name may have. -/
def maxLevels : Nat := 79

/-- A dotted name as the path to a table and the name in it. -/
def readPath? (input : List Char) : Option (List String × String × List Char) := do
  let (names, rest) ← readName? maxLevels input
  let name ← names.getLast?
  return (names.dropLast, name, rest)

/-- Characters that end a value without quotes. -/
def endsBare (c : Char) : Bool :=
  isSpace c || c = '\n' || c = '\r' || c = '#' || c = ',' || c = ']' || c = '\x7d'

/-- A value without quotes or brackets. A date may have its time after a space. -/
def readBare? (input : List Char) : Option (Toml × List Char) :=
  let spelling := input.takeWhile (!endsBare ·)
  let rest := input.dropWhile (!endsBare ·)
  match isDate spelling, rest with
  | true, ' ' :: next =>
    let time := next.takeWhile (!endsBare ·)
    if isTimeWithOffset time then
      some (.moment (String.ofList (spelling ++ ' ' :: time)), next.dropWhile (!endsBare ·))
    else some (.moment (String.ofList spelling), rest)
  | _, _ => (bare? spelling).map fun value => (value, rest)

mutual
/-- A value with at most `levels` lists and tables inside one another. -/
def readValue? (levels steps : Nat) (input : List Char) : Option (Toml × List Char) :=
  match steps with
  | 0 => none
  | steps + 1 =>
    match input with
    | '"' :: _ | '\'' :: _ => (readQuoted? input).map fun (content, rest) => (.text content, rest)
    | '[' :: rest =>
      if levels = 0 then none
      else do
        let (items, rest) ← readItems? (levels - 1) steps rest
        return (.list items, rest)
    | '\x7b' :: rest =>
      if levels = 0 then none
      else
        match skipSpaces rest with
        | '\x7d' :: rest => some (.table .braces [], rest)
        | rest => do
          let (members, rest) ← readMembers? (levels - 1) steps [] rest
          return (.table .braces members, rest)
    | _ => readBare? input

/-- The items of a list whose opening bracket or last comma has been read. -/
def readItems? (levels steps : Nat) (input : List Char) : Option (List Toml × List Char) :=
  match steps with
  | 0 => none
  | steps + 1 => do
    let input ← skipGaps? input.length input
    match input with
    | ']' :: rest => some ([], rest)
    | _ =>
      let (item, rest) ← readValue? levels steps input
      let rest ← skipGaps? rest.length rest
      match rest with
      | ',' :: rest => do
        let (items, rest) ← readItems? levels steps rest
        return (item :: items, rest)
      | ']' :: rest => some ([item], rest)
      | _ => none

/-- The members of a table between braces, after the ones that have been read. -/
def readMembers? (levels steps : Nat) (members : Members) (input : List Char) :
    Option (Members × List Char) :=
  match steps with
  | 0 => none
  | steps + 1 => do
    let (path, name, rest) ← readPath? input
    let '=' :: rest := rest | none
    let (value, rest) ← readValue? levels steps (skipSpaces rest)
    let members ← insert path name value members
    match skipSpaces rest with
    | ',' :: rest => readMembers? levels steps members rest
    | '\x7d' :: rest => some (members, rest)
    | _ => none
end

/-- One statement, the open table after it, and the rest of the text. -/
def readStatement? (draft : Draft) (input : List Char) : Option (Draft × List Char) :=
  match input with
  | '[' :: '[' :: rest => do
    let (path, name, rest) ← readPath? rest
    let ']' :: ']' :: rest := rest | none
    let rest ← afterStatement? rest
    let draft ← draft.openElement path name
    return (draft, rest)
  | '[' :: rest => do
    let (path, name, rest) ← readPath? rest
    let ']' :: rest := rest | none
    let rest ← afterStatement? rest
    let draft ← draft.openTable path name
    return (draft, rest)
  | _ => do
    let (path, name, rest) ← readPath? input
    let '=' :: rest := rest | none
    let (value, rest) ← readValue? maxLevels (2 * rest.length + 2) (skipSpaces rest)
    let rest ← afterStatement? rest
    let draft ← draft.add path name value
    return (draft, rest)

/-- The document that a text spells after a draft; every line uses up one of `steps`. -/
def readStatements? (steps : Nat) (draft : Draft) (input : List Char) : Option Draft :=
  match steps with
  | 0 => none
  | steps + 1 =>
    match skipSpaces input with
    | [] => some draft
    | '#' :: rest => afterStatement? ('#' :: rest) >>= readStatements? steps draft
    | '\n' :: rest => readStatements? steps draft rest
    | '\r' :: rest => afterLineEnd? ('\r' :: rest) >>= readStatements? steps draft
    | rest => do
      let (draft, rest) ← readStatement? draft rest
      readStatements? steps draft rest

/-- The members of the document that a text spells. A byte order mark in front is passed over. -/
def ofString? (text : String) : Option Members := do
  let input := match text.toList with
    | '\uFEFF' :: rest => rest
    | chars => chars
  let draft ← readStatements? (input.length + 1) {} input
  draft.close

end ChainScript.Toml
