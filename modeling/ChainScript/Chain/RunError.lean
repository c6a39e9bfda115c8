import ChainScript.Abi.Error
import ChainScript.Chain.Failure

/-! Why a transaction came to nothing. A refusal whose text ends in a code between parentheses is a revert;
any other refusal counts as one of the transport. -/

namespace ChainScript

/-- The text and the code of a revert. -/
structure RevertNote where
  text : String
  code : UInt64
deriving DecidableEq

/-- Reads a text of one line followed by a space and decimal digits between parentheses. The text may end in
another such code, and it may be empty; the code has at most 64 bits. -/
def RevertNote.ofString? (message : String) : Option RevertNote :=
  match message.toList.reverse with
  | ')' :: reversed =>
    let digits := (reversed.takeWhile Text.isDigit).reverse
    match reversed.dropWhile Text.isDigit with
    | '(' :: ' ' :: text => do
      if digits.isEmpty || text.contains '\n' then none
      else
        let code ← (Text.decimal? digits).filter (· < UInt64.size)
        return ⟨String.ofList text.reverse, UInt64.ofNat code⟩
    | _ => none
  | _ => none

inductive RunError where
  | transport (cause : Refusal)
  /-- A revert, with the name of its code if the reporter has one. -/
  | revert (cause : Refusal) (note : RevertNote) (name : Option String)
  /-- The request could not be built, and nothing was sent. -/
  | encoding (fault : AbiError)
deriving DecidableEq

namespace RunError

/-- What a refusal comes to; `resolve` gives names to codes. -/
def classify (cause : Refusal) (resolve : UInt64 → Option String) : RunError :=
  match RevertNote.ofString? cause.text with
  | some note => revert cause note (resolve note.code)
  | none => transport cause

def cause? : RunError → Option Refusal
  | transport cause | revert cause _ _ => some cause
  | encoding _ => none

def code? : RunError → Option UInt64
  | revert _ note _ => some note.code
  | _ => none

/-- The message of what lies behind the error. -/
def source : RunError → String
  | transport cause | revert cause _ _ => cause.message
  | encoding fault => fault.message

def message : RunError → String
  | transport cause => s!"InvocationError<err={cause.message}>"
  | revert _ note name =>
    let shown := name.getD "null"
    s!"InvocationRevertError<errMessage={note.text},errCode={note.code},error={shown}>"
  | encoding fault => s!"InvocationError<err={fault.message}>"

end RunError

end ChainScript
