import ChainScript.Text.Hex

/-!
Numerals in base ten and sixteen, read as numbers of any size.
-/

namespace ChainScript.Text

def isDigit (c : Char) : Bool :=
  '0' ≤ c && c ≤ '9'

/-- The number that decimal digits spell after `value`; nothing if another character is met. -/
def decimalFrom? (value : Nat) : List Char → Option Nat
  | [] => some value
  | c :: rest => if isDigit c then decimalFrom? (10 * value + (c.toNat - 48)) rest else none

/-- The number spelled by decimal digits alone; no digits spell zero. -/
def decimal? (digits : List Char) : Option Nat :=
  decimalFrom? 0 digits

/-- The number that hexadecimal digits spell after `value`; nothing if another character is met. -/
def hexNumberFrom? (value : Nat) : List Char → Option Nat
  | [] => some value
  | c :: rest =>
    match hexValue? c with
    | some digit => hexNumberFrom? (16 * value + digit) rest
    | none => none

/-- The number spelled by hexadecimal digits alone; no digits spell zero. -/
def hexNumber? (digits : List Char) : Option Nat :=
  hexNumberFrom? 0 digits

/-- A size: digits, at least one, after an optional plus sign, whose value fits in 64 bits. -/
def size? (text : List Char) : Option Nat :=
  let digits := match text with
    | '+' :: rest => rest
    | _ => text
  if digits.isEmpty then none
  else (decimal? digits).filter (· < UInt64.size)

end ChainScript.Text
