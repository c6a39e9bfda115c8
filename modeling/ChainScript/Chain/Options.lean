import ChainScript.Chain.Transaction

/-! Settings that go into every transaction of a run. -/

namespace ChainScript

structure Options where
  gasLimit : UInt64 := 2000000000
  gasPrice : UInt64 := 1000000000
  /-- Takes the place of the gas limit. -/
  totalGas : Option UInt64 := none
  /-- Nothing is sent. -/
  dryRun : Bool := false
deriving DecidableEq

namespace Options

def effectiveGasLimit (options : Options) : UInt64 :=
  options.totalGas.getD options.gasLimit

/-- The transaction with the gas settings of the run. -/
def apply (options : Options) (transaction : Transaction) : Transaction :=
  { transaction with
    gasLimit := some options.effectiveGasLimit
    gasPrice := some (BitVec.ofNat 256 options.gasPrice.toNat) }

end Options

end ChainScript
