import ChainScript.ScriptError
import ChainScript.Data.Word
import ChainScript.Text.Blank
import ChainScript.Text.Lowercase

/-! Readers turn the word of a parameter into a value. An implicit parameter has no word, so a reader is
asked with an optional one. Here a reader is what it answers in the end; that it may keep others waiting until then is
told by the parameter that it belongs to. -/

namespace ChainScript

/-- A world that knows accounts by name. -/
class Aliases (World : Type) where
  resolve : World → String → Option Address

/-- The value of a parameter, from the world and the word the parameter took. -/
abbrev Reader (World Value : Type) := World → Option Event → Except ScriptError Value

namespace Reader

def required : Option Event → Except ScriptError Event
  | some event => .ok event
  | none => .error (.reading .noWord)

/-- The token of a single word. -/
def token (event : Option Event) : Except ScriptError String := do
  let event ← required event
  event.requireWord.mapError .shape

@[simp] theorem token_word (text : String) : token (some (.word text)) = .ok text := rfl

/-- The number that a token spells, in decimal or after `0x` or `0X` in hexadecimal. -/
def numberOfToken? (token : String) : Option Word :=
  match Text.afterHexMark? token.toList with
  | some digits => Word.ofHex? digits
  | none => Word.ofDecimal? token.toList

def number (event : Option Event) : Except ScriptError Word := do
  let token ← token event
  match numberOfToken? token with
  | some word => .ok word
  | none => .error (.reading (.notNumber token))

/-- `true` or `false` in any case. -/
def flag (event : Option Event) : Except ScriptError Bool := do
  let token ← token event
  let lowered := Text.lowercase token.toList
  if lowered = "true".toList then .ok true
  else if lowered = "false".toList then .ok false
  else .error (.reading (.notFlag token))

/-- The address that a token spells digit by digit, or else the one the world knows by that name. -/
def address {World : Type} [Aliases World] (world : World) (event : Option Event) :
    Except ScriptError Address := do
  let token ← token event
  match Octets.ofHex? 20 token.toList with
  | some address => .ok address
  | none =>
    match Aliases.resolve world token with
    | some address => .ok address
    | none => .error (.reading (.unknownAddress token))

end Reader

end ChainScript
