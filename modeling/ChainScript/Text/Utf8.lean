import ChainScript.Text.Hex

/-! Text as bytes. The reader walks over the bytes once and keeps the sequence that is still open; a fault
says where the sequence started and how many of its bytes were sound. -/

namespace ChainScript.Text

/-- The bytes of a text. -/
def utf8 (text : String) : Bytes :=
  text.toList.flatMap String.utf8EncodeChar

/-- Why bytes are no text. -/
inductive Utf8Fault where
  /-- The bytes end inside a sequence that was sound so far. -/
  | cutShort (start : Nat)
  /-- The sequence cannot be continued after its first `sound` bytes. -/
  | malformed (start sound : Nat)
deriving DecidableEq

def Utf8Fault.message : Utf8Fault → String
  | .cutShort start => s!"incomplete utf-8 byte sequence from index {start}"
  | .malformed start sound => s!"invalid utf-8 sequence of {sound} bytes from index {start}"

/-- A sequence that needs more bytes: the value so far, the bounds of the next byte, and how many bytes
follow that one. -/
structure OpenSequence where
  start : Nat
  sound : Nat
  value : Nat
  low : Nat
  high : Nat
  more : Nat

/-- The sequence that a first byte above 127 opens. The bounds leave out spellings that are longer than
needed, surrogates, and numbers beyond the last character. -/
def OpenSequence.ofLead? (position lead : Nat) : Option OpenSequence :=
  if lead < 0xC2 then none
  else if lead < 0xE0 then some ⟨position, 1, lead - 0xC0, 0x80, 0xBF, 0⟩
  else if lead < 0xF0 then
    some ⟨position, 1, lead - 0xE0, if lead = 0xE0 then 0xA0 else 0x80,
      if lead = 0xED then 0x9F else 0xBF, 1⟩
  else if lead < 0xF5 then
    some ⟨position, 1, lead - 0xF0, if lead = 0xF0 then 0x90 else 0x80,
      if lead = 0xF4 then 0x8F else 0xBF, 2⟩
  else none

/-- The characters of the bytes from `position` on, the first of which continue the open sequence. -/
def utf8CharsFrom (position : Nat) (opened : Option OpenSequence) :
    Bytes → Except Utf8Fault (List Char)
  | [] =>
    match opened with
    | none => .ok []
    | some sequence => .error (.cutShort sequence.start)
  | byte :: rest =>
    let code := byte.toNat
    match opened with
    | none =>
      if code < 0x80 then do
        let chars ← utf8CharsFrom (position + 1) none rest
        return Char.ofNat code :: chars
      else match OpenSequence.ofLead? position code with
        | none => .error (.malformed position 1)
        | some sequence => utf8CharsFrom (position + 1) (some sequence) rest
    | some sequence =>
      if sequence.low ≤ code ∧ code ≤ sequence.high then
        let value := 64 * sequence.value + (code - 0x80)
        match sequence.more with
        | 0 => do
          let chars ← utf8CharsFrom (position + 1) none rest
          return Char.ofNat value :: chars
        | more + 1 =>
          utf8CharsFrom (position + 1)
            (some ⟨sequence.start, sequence.sound + 1, value, 0x80, 0xBF, more⟩) rest
      else .error (.malformed sequence.start sequence.sound)

/-- The text that the bytes spell. -/
def ofUtf8 (bytes : Bytes) : Except Utf8Fault String := do
  return String.ofList (← utf8CharsFrom 0 none bytes)

end ChainScript.Text
