import ChainScript.Reader

/-! A small world for scripts: accounts known by name, balances, and a log of what was done. -/

namespace ChainScript

/-- What a parameter of a ledger command can be. -/
inductive Datum where
  | text (text : String)
  | number (word : Word)
  | flag (set : Bool)
  | address (address : Address)
deriving DecidableEq

def Datum.toString : Datum → String
  | .text content => content
  | .number word => word.toDecimal
  | .flag set => s!"{set}"
  | .address account => account.toString

/-- Gives a key a value; a key that is there already keeps its place. -/
def assign {Key Value : Type} [DecidableEq Key] (key : Key) (value : Value) :
    List (Key × Value) → List (Key × Value)
  | [] => [(key, value)]
  | (other, old) :: rest =>
    if key = other then (key, value) :: rest else (other, old) :: assign key value rest

structure Ledger where
  aliases : List (String × Address) := []
  balances : List (Address × Word) := []
  log : List String := []
deriving DecidableEq

/-- Why the ledger refuses. -/
inductive LedgerFault where
  | insufficientBalance
  | balanceOverflow
  | totalOverflow
  | noAddress
  | notAddress (param : String)
  | notNumber (param : String)
  | refused (name : String)
deriving DecidableEq

namespace LedgerFault

def message : LedgerFault → String
  | insufficientBalance => "insufficient balance"
  | balanceOverflow => "balance overflow"
  | totalOverflow => "total overflow"
  | noAddress => "expected address"
  | notAddress param => s!"{param} must be an address"
  | notNumber param => s!"{param} must be a number"
  | refused name => s!"{name} failed"

def toError (fault : LedgerFault) : ScriptError :=
  .processing fault.message

end LedgerFault

namespace Ledger

instance : Aliases Ledger where
  resolve ledger name := ledger.aliases.lookup name

/-- The balance of an account, zero if it has none. -/
def balance (ledger : Ledger) (account : Address) : Word :=
  (ledger.balances.lookup account).getD 0

def setBalance (ledger : Ledger) (account : Address) (amount : Word) : Ledger :=
  { ledger with balances := assign account amount ledger.balances }

/-- Adds to a balance, unless the sum is no word. -/
def credit (ledger : Ledger) (account : Address) (amount : Word) : Except LedgerFault Ledger :=
  match Word.ofNat? ((ledger.balance account).toNat + amount.toNat) with
  | some sum => .ok (ledger.setBalance account sum)
  | none => .error .balanceOverflow

/-- Takes from a balance, unless it is too small. -/
def debit (ledger : Ledger) (account : Address) (amount : Word) : Except LedgerFault Ledger :=
  if ledger.balance account < amount then .error .insufficientBalance
  else .ok (ledger.setBalance account (ledger.balance account - amount))

def write (ledger : Ledger) (entry : String) : Ledger :=
  { ledger with log := ledger.log ++ [entry] }

def transfer (ledger : Ledger) (sender receiver : Address) (amount : Word) : Except LedgerFault Ledger := do
  let debited ← ledger.debit sender amount
  let credited ← debited.credit receiver amount
  return credited.write "Transfer"

def setAlias (ledger : Ledger) (name : String) (target : Address) : Ledger :=
  { ledger with aliases := assign name target ledger.aliases }

/-- The sum of all balances, if it is a word. -/
def total (ledger : Ledger) : Except LedgerFault Word :=
  match Word.ofNat? (ledger.balances.foldl (fun sum entry => sum + entry.2.toNat) 0) with
  | some sum => .ok sum
  | none => .error .totalOverflow

end Ledger

end ChainScript
