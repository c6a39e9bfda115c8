/-!
Hexadecimal spellings of bytes. Every byte has two digits; the writer uses small letters and the reader
takes either case.
-/

namespace ChainScript

/-- A sequence of bytes, as it travels to and from a chain. -/
abbrev Bytes := List UInt8

namespace Text

/-- The digit of a number below sixteen. -/
def hexDigit (value : Nat) : Char :=
  if value < 10 then Char.ofNat (48 + value) else Char.ofNat (87 + value)

/-- The number a hexadecimal digit stands for. -/
def hexValue? (c : Char) : Option Nat :=
  if '0' ≤ c ∧ c ≤ '9' then some (c.toNat - 48)
  else if 'a' ≤ c ∧ c ≤ 'f' then some (c.toNat - 87)
  else if 'A' ≤ c ∧ c ≤ 'F' then some (c.toNat - 55)
  else none

def hexChars : Bytes → List Char
  | [] => []
  | byte :: rest => hexDigit (byte.toNat / 16) :: hexDigit (byte.toNat % 16) :: hexChars rest

/-- The digits of the bytes, without a mark in front. -/
def hex (bytes : Bytes) : String :=
  String.ofList (hexChars bytes)

/-- The digits of the bytes after the mark `0x`. -/
def markedHex (bytes : Bytes) : String :=
  "0x" ++ hex bytes

/-- The bytes that pairs of digits spell; nothing for an odd count or another character. -/
def bytesOfHex? : List Char → Option Bytes
  | [] => some []
  | [_] => none
  | high :: low :: rest => do
    let highValue ← hexValue? high
    let lowValue ← hexValue? low
    let bytes ← bytesOfHex? rest
    return UInt8.ofNat (16 * highValue + lowValue) :: bytes

/-- What follows a leading `0x` or `0X`. -/
def afterHexMark? : List Char → Option (List Char)
  | '0' :: 'x' :: digits => some digits
  | '0' :: 'X' :: digits => some digits
  | _ => none

end Text

end ChainScript
