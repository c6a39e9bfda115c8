import ChainScript.Chain.Transaction

/-! A connection carries requests to a chain. The scripted chain stands in for one: it hands out prepared
replies, each kind of request from its own queue, and keeps the requests that it saw. -/

namespace ChainScript

/-- The reply to a deployment: where the contract is, and the receipt. -/
abbrev Deployed := Address × Receipt

/-- The three requests to a chain whose own state changes with every one. -/
structure Connection (State : Type) where
  /-- Runs a transaction without sending it. -/
  call : Transaction → StateM State (Except Refusal Bytes)
  send : Transaction → StateM State (Except Refusal Receipt)
  deploy : Transaction → StateM State (Except Refusal Deployed)

inductive RequestKind where
  | call
  | send
  | deploy
deriving DecidableEq

structure Request where
  kind : RequestKind
  transaction : Transaction
deriving DecidableEq

structure ScriptedChain where
  calls : List (Except Refusal Bytes) := []
  sends : List (Except Refusal Receipt) := []
  deploys : List (Except Refusal Deployed) := []
  requests : List Request := []

namespace ScriptedChain

/-- Gas of receipts that were not prepared. -/
def defaultGas : UInt64 := 21000

/-- Where contracts go whose deployment was not prepared. -/
def defaultAddress : Address := Octets.fill 20 0xde

/-- The receipt that was not prepared, for the last of `count` requests. -/
def defaultReceipt (count : Nat) : Receipt where
  transactionHash := Octets.ofNat 32 (UInt64.ofNat (count + 1)).toNat
  blockNumber := some (UInt64.ofNat (count + 1))
  gasUsed := defaultGas

def pushCall (chain : ScriptedChain) (reply : Except Refusal Bytes) : ScriptedChain :=
  { chain with calls := chain.calls ++ [reply] }

def pushSend (chain : ScriptedChain) (reply : Except Refusal Receipt) : ScriptedChain :=
  { chain with sends := chain.sends ++ [reply] }

def pushDeploy (chain : ScriptedChain) (reply : Except Refusal Deployed) : ScriptedChain :=
  { chain with deploys := chain.deploys ++ [reply] }

def noted (chain : ScriptedChain) (kind : RequestKind) (transaction : Transaction) : ScriptedChain :=
  { chain with requests := chain.requests ++ [⟨kind, transaction⟩] }

/-- The next prepared result, or else no data. -/
def call (transaction : Transaction) : StateM ScriptedChain (Except Refusal Bytes) := fun chain =>
  let chain := chain.noted .call transaction
  match chain.calls with
  | reply :: rest => (reply, { chain with calls := rest })
  | [] => (.ok [], chain)

/-- The next prepared receipt, or else the default one. -/
def send (transaction : Transaction) : StateM ScriptedChain (Except Refusal Receipt) := fun chain =>
  let chain := chain.noted .send transaction
  match chain.sends with
  | reply :: rest => (reply, { chain with sends := rest })
  | [] => (.ok (defaultReceipt chain.requests.length), chain)

/-- The next prepared deployment, or else one at the default address. -/
def deploy (transaction : Transaction) : StateM ScriptedChain (Except Refusal Deployed) := fun chain =>
  let chain := chain.noted .deploy transaction
  match chain.deploys with
  | reply :: rest => (reply, { chain with deploys := rest })
  | [] =>
    let receipt := { defaultReceipt chain.requests.length with contractAddress := some defaultAddress }
    (.ok (defaultAddress, receipt), chain)

def connection : Connection ScriptedChain where
  call := call
  send := send
  deploy := deploy

end ScriptedChain

end ChainScript
