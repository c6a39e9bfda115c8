import ChainScript.Data.Word

/-! Transactions, and what a chain says about them afterwards. -/

namespace ChainScript

structure Transaction where
  sender : Address := Octets.fill 20 0
  /-- Nobody for the creation of a contract. -/
  recipient : Option Address := none
  data : Bytes := []
  value : Word := 0
  gasLimit : Option UInt64 := none
  gasPrice : Option Word := none
deriving DecidableEq

/-- An entry that a contract wrote while it ran. -/
structure LogEntry where
  address : Address
  topics : List Hash
  data : Bytes
deriving DecidableEq

structure Receipt where
  transactionHash : Hash := Octets.fill 32 0
  blockNumber : Option UInt64 := none
  gasUsed : UInt64 := 0
  contractAddress : Option Address := none
  logs : List LogEntry := []
deriving DecidableEq

namespace Receipt

/-- Stands in for the receipt of a transaction that was never sent. -/
def unsent : Receipt := {}

/-- The entries whose first topic is this one, in order. -/
def entriesWith (receipt : Receipt) (topic : Hash) : List LogEntry :=
  receipt.logs.filter (·.topics.head? = some topic)

end Receipt

/-- Why a chain does not carry out a request. -/
inductive Refusal where
  /-- The node rejects it, in words that may end in a code. -/
  | rejected (text : String)
  /-- The node is not reached. -/
  | transport (text : String)
deriving DecidableEq

namespace Refusal

def text : Refusal → String
  | rejected content | transport content => content

def message : Refusal → String
  | rejected content => content
  | transport content => s!"transport error: {content}"

end Refusal

end ChainScript
