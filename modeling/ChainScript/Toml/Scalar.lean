import ChainScript.Toml.Basic
import ChainScript.Data.Double
import ChainScript.Text.Decimal

/-! Numbers, truth values, dates and times of TOML, each read from the whole of a spelling without blanks. -/

namespace ChainScript.Toml

/-- The digit that a character is in a base. -/
def digitOf? (base : Nat) (c : Char) : Option Nat :=
  (Text.hexValue? c).filter (· < base)

/-- The number that digits spell after `value`; single underscores may stand between digits. -/
def groupedFrom? (base value : Nat) : List Char → Option Nat
  | [] => some value
  | '_' :: c :: rest => do
    let digit ← digitOf? base c
    groupedFrom? base (base * value + digit) rest
  | c :: rest => do
    let digit ← digitOf? base c
    groupedFrom? base (base * value + digit) rest

/-- The number that digits in groups spell; there is at least one digit. -/
def grouped? (base : Nat) : List Char → Option Nat
  | [] => none
  | c :: rest => do
    let digit ← digitOf? base c
    groupedFrom? base digit rest

/-- The number that decimal digits spell, the first of which is zero only if it is the only one. -/
def decimal? : List Char → Option Nat
  | ['0'] => some 0
  | '0' :: _ => none
  | digits => grouped? 10 digits

/-- A sign, if there is one, and what follows it. -/
def splitSign : List Char → Bool × List Char
  | '-' :: rest => (true, rest)
  | '+' :: rest => (false, rest)
  | rest => (false, rest)

/-- Integers have a sign and 63 further bits. -/
def integerBound : Nat := 0x8000000000000000

/-- An integer of 64 bits with its sign. Other bases than ten take no sign in front. -/
def integer? (spelling : List Char) : Option Int :=
  match spelling with
  | '0' :: 'x' :: digits => (grouped? 16 digits).bind bounded
  | '0' :: 'o' :: digits => (grouped? 8 digits).bind bounded
  | '0' :: 'b' :: digits => (grouped? 2 digits).bind bounded
  | _ =>
    let (negative, digits) := splitSign spelling
    match decimal? digits with
    | none => none
    | some size =>
      if negative then if size ≤ integerBound then some (-(size : Int)) else none
      else bounded size
where
  bounded (size : Nat) : Option Int :=
    if size < integerBound then some size else none

/-- Whether a decimal fraction is too great for a double. -/
def exceedsDouble (digits : Nat) (exponent : Int) : Bool :=
  if digits = 0 then false
  else if 0 ≤ exponent then
    310 < exponent || Double.bound ≤ digits * Nat.pow 10 exponent.toNat
  else
    exponent.natAbs < (Nat.toDigits 10 digits).length &&
      Double.bound * Nat.pow 10 exponent.natAbs ≤ digits

/-- The exponent after its mark. -/
def exponent? (spelling : List Char) : Option Int := do
  let (negative, digits) := splitSign spelling
  let size ← grouped? 10 digits
  return if negative then -(size : Int) else size

def isExponentMark (c : Char) : Bool :=
  c = 'e' || c = 'E'

/-- Whether a spelling is a float: digits with a fraction, an exponent or both, or one of the special values.
A positive number must not be too great for a double. -/
def isFloat (spelling : List Char) : Bool :=
  let (negative, unsigned) := splitSign spelling
  if unsigned = "inf".toList ∨ unsigned = "nan".toList then true
  else
    let mantissa := unsigned.takeWhile (!isExponentMark ·)
    let whole := mantissa.takeWhile (· ≠ '.')
    let fraction := (mantissa.dropWhile (· ≠ '.')).drop 1
    let exponent := match unsigned.dropWhile (!isExponentMark ·) with
      | [] => some 0
      | _ :: rest => exponent? rest
    let pointed := mantissa.contains '.'
    let marked := unsigned.any isExponentMark
    match decimal? whole, if pointed then grouped? 10 fraction else some 0, exponent with
    | some whole, some part, some exponent =>
      let places := (fraction.filter Text.isDigit).length
      (pointed || marked) &&
        (negative || !exceedsDouble (whole * Nat.pow 10 places + part) (exponent - places))
    | _, _, _ => false

/-- The number that exactly `count` digits in front of a text spell. -/
def readFixed? (count : Nat) (input : List Char) : Option (Nat × List Char) :=
  let digits := input.take count
  if digits.length = count ∧ digits.all Text.isDigit then
    (Text.decimal? digits).map fun value => (value, input.drop count)
  else none

def daysIn (year month : Nat) : Nat :=
  if month = 2 then
    if year % 4 = 0 ∧ (year % 100 ≠ 0 ∨ year % 400 = 0) then 29 else 28
  else if month = 4 ∨ month = 6 ∨ month = 9 ∨ month = 11 then 30
  else 31

/-- Passes over a date. -/
def afterDate? (input : List Char) : Option (List Char) := do
  let (year, rest) ← readFixed? 4 input
  let '-' :: rest := rest | none
  let (month, rest) ← readFixed? 2 rest
  let '-' :: rest := rest | none
  let (day, rest) ← readFixed? 2 rest
  if 1 ≤ month ∧ month ≤ 12 ∧ 1 ≤ day ∧ day ≤ daysIn year month then some rest else none

/-- Passes over hours and minutes. -/
def afterHourMinute? (input : List Char) : Option (List Char) := do
  let (hour, rest) ← readFixed? 2 input
  let ':' :: rest := rest | none
  let (minute, rest) ← readFixed? 2 rest
  if hour ≤ 23 ∧ minute ≤ 59 then some rest else none

/-- Passes over a time of day, in which a second may be a leap second. -/
def afterTime? (input : List Char) : Option (List Char) := do
  let rest ← afterHourMinute? input
  let ':' :: rest := rest | none
  let (second, rest) ← readFixed? 2 rest
  if 60 < second then none
  else match rest with
    | '.' :: fraction =>
      if (fraction.takeWhile Text.isDigit).isEmpty then none else some (fraction.dropWhile Text.isDigit)
    | _ => some rest

/-- Whether a spelling is a time of day, with the distance from universal time or without. -/
def isTimeWithOffset (input : List Char) : Bool :=
  match afterTime? input with
  | none => false
  | some [] | some ['Z'] | some ['z'] => true
  | some ('+' :: offset) | some ('-' :: offset) => afterHourMinute? offset = some []
  | some _ => false

def isDate (spelling : List Char) : Bool :=
  afterDate? spelling = some []

/-- Whether a spelling is a date, a time, or both with the letter T between them. -/
def isMoment (spelling : List Char) : Bool :=
  match afterDate? spelling with
  | some [] => true
  | some ('T' :: time) | some ('t' :: time) => isTimeWithOffset time
  | some _ => false
  | none => afterTime? spelling = some []

/-- The value that a spelling without blanks stands for. -/
def bare? (spelling : List Char) : Option Toml :=
  if spelling = "true".toList then some (.bool true)
  else if spelling = "false".toList then some (.bool false)
  else match integer? spelling with
    | some value => some (.integer value)
    | none =>
      if isFloat spelling then some (.float (String.ofList spelling))
      else if isMoment spelling then some (.moment (String.ofList spelling))
      else none

end ChainScript.Toml
