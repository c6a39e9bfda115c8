import ChainScript.Json.Basic
import ChainScript.Text.Decimal

/-! Documents in JSON read from text. Each reader returns what it has read and the rest of the text. -/

namespace ChainScript.Json

/-- A character of a text, or a UTF-16 unit that is written by its number. -/
inductive TextUnit where
  | char (c : Char)
  | unit (code : Nat)

/-- The characters that units spell, surrogates taken in pairs. -/
def charsOf? : List TextUnit → Option (List Char)
  | [] => some []
  | .char c :: rest => (c :: ·) <$> charsOf? rest
  | .unit high :: .unit low :: rest =>
    if 0xD800 ≤ high ∧ high < 0xDC00 then
      if 0xDC00 ≤ low ∧ low < 0xE000 then
        (Char.ofNat (0x10000 + (high - 0xD800) * 0x400 + (low - 0xDC00)) :: ·) <$> charsOf? rest
      else none
    else if 0xDC00 ≤ high ∧ high < 0xE000 then none
    else (Char.ofNat high :: ·) <$> charsOf? (.unit low :: rest)
  | .unit code :: rest =>
    if 0xD800 ≤ code ∧ code < 0xE000 then none else (Char.ofNat code :: ·) <$> charsOf? rest

/-- The character that a letter after a backslash stands for. -/
def unescape? : Char → Option Char
  | '"' => some '"'
  | '\\' => some '\\'
  | '/' => some '/'
  | 'b' => some '\x08'
  | 'f' => some '\x0c'
  | 'n' => some '\n'
  | 'r' => some '\r'
  | 't' => some '\t'
  | _ => none

/-- The units of a text whose opening quote has been read. -/
def readUnits? : List Char → Option (List TextUnit × List Char)
  | [] => none
  | '"' :: rest => some ([], rest)
  | '\\' :: 'u' :: a :: b :: c :: d :: rest => do
    let code ← Text.hexNumber? [a, b, c, d]
    let (units, rest) ← readUnits? rest
    return (.unit code :: units, rest)
  | '\\' :: c :: rest => do
    let c ← unescape? c
    let (units, rest) ← readUnits? rest
    return (.char c :: units, rest)
  | c :: rest => do
    if c.toNat < 0x20 then none
    else
      let (units, rest) ← readUnits? rest
      return (.char c :: units, rest)

/-- A text whose opening quote has been read. -/
def readText? (input : List Char) : Option (Option String × List Char) := do
  let (units, rest) ← readUnits? input
  return ((charsOf? units).map String.ofList, rest)

def skipBlanks (input : List Char) : List Char :=
  input.dropWhile fun c => c = ' ' || c = '\t' || c = '\n' || c = '\r'

/-- The digits in front of a text. -/
def readDigits (input : List Char) : List Nat × List Char :=
  ((input.takeWhile Text.isDigit).map fun c => c.toNat - 48, input.dropWhile Text.isDigit)

/-- The digits after a point, if there is one. -/
def readFraction? : List Char → Option (List Nat × List Char)
  | '.' :: input =>
    let (digits, rest) := readDigits input
    if digits.isEmpty then none else some (digits, rest)
  | input => some ([], input)

def numberOfDigits (digits : List Nat) : Nat :=
  digits.foldl (fun value digit => 10 * value + digit) 0

/-- The number after an exponent mark, if there is one. -/
def readExponent? (input : List Char) : Option (Int × List Char) :=
  match input with
  | mark :: signed =>
    if mark = 'e' ∨ mark = 'E' then
      let (negative, unsigned) := match signed with
        | '-' :: rest => (true, rest)
        | '+' :: rest => (false, rest)
        | _ => (false, signed)
      let (digits, rest) := readDigits unsigned
      if digits.isEmpty then none
      else
        let size : Int := numberOfDigits digits
        some (if negative then -size else size, rest)
    else some (0, input)
  | [] => some (0, [])

/-- A number without its sign. Its digits start with a zero only if that is the only one. -/
def readNumber? (input : List Char) : Option (JsonNumber × List Char) := do
  let (whole, rest) := readDigits input
  match whole with
  | [] | 0 :: _ :: _ => none
  | _ =>
    let (fraction, rest) ← readFraction? rest
    let (exponent, rest) ← readExponent? rest
    return (⟨whole, fraction, exponent⟩, rest)

/-- What follows a word at the start of a text. -/
def afterWord? (word : List Char) (input : List Char) : Option (List Char) :=
  if word.isPrefixOf input then some (input.drop word.length) else none

/-- A value that is neither list nor object. -/
def readScalar? : List Char → Option (Json × List Char)
  | '"' :: input => do
    let (content, rest) ← readText? input
    return (.text content, rest)
  | '-' :: input => do
    let (written, rest) ← readNumber? input
    return (.number written, rest)
  | 't' :: input => (fun rest => (.bool true, rest)) <$> afterWord? "rue".toList input
  | 'f' :: input => (fun rest => (.bool false, rest)) <$> afterWord? "alse".toList input
  | 'n' :: input => (fun rest => (.null, rest)) <$> afterWord? "ull".toList input
  | input => do
    let (written, rest) ← readNumber? input
    return (.number written, rest)

/-- The name of a member and the colon after it. -/
def readName? (input : List Char) : Option (Option String × List Char) :=
  match skipBlanks input with
  | '"' :: input => do
    let (name, rest) ← readText? input
    match skipBlanks rest with
    | ':' :: rest => some (name, rest)
    | _ => none
  | _ => none

mutual
/-- A value. Every step of the three readers uses up `steps`, and every second one uses up a character. -/
def readValue? (steps : Nat) (input : List Char) : Option (Json × List Char) :=
  match steps with
  | 0 => none
  | steps + 1 =>
    match skipBlanks input with
    | '[' :: input =>
      match skipBlanks input with
      | ']' :: rest => some (.list [], rest)
      | input => do
        let (items, rest) ← readItems? steps input
        return (.list items, rest)
    | '\x7b' :: input =>
      match skipBlanks input with
      | '\x7d' :: rest => some (.object [], rest)
      | input => do
        let (members, rest) ← readMembers? steps input
        return (.object members, rest)
    | input => readScalar? input

/-- The items of a list from the first one on, and its closing bracket. -/
def readItems? (steps : Nat) (input : List Char) : Option (List Json × List Char) :=
  match steps with
  | 0 => none
  | steps + 1 => do
    let (item, rest) ← readValue? steps input
    match skipBlanks rest with
    | ']' :: rest => some ([item], rest)
    | ',' :: rest => do
      let (items, rest) ← readItems? steps rest
      return (item :: items, rest)
    | _ => none

/-- The members of an object from the first one on, and its closing brace. -/
def readMembers? (steps : Nat) (input : List Char) : Option (List (Option String × Json) × List Char) :=
  match steps with
  | 0 => none
  | steps + 1 => do
    let (name, rest) ← readName? input
    let (value, rest) ← readValue? steps rest
    match skipBlanks rest with
    | '\x7d' :: rest => some ([(name, value)], rest)
    | ',' :: rest => do
      let (members, rest) ← readMembers? steps rest
      return ((name, value) :: members, rest)
    | _ => none
end

/-- The document that a text spells. -/
def ofString? (text : String) : Option Json := do
  let input := text.toList
  let (value, rest) ← readValue? (2 * input.length + 2) input
  if (skipBlanks rest).isEmpty then some value else none

end ChainScript.Json
