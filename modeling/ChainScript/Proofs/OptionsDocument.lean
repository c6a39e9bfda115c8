import ChainScript.Chain.OptionsText
import ChainScript.Proofs.ExceptSteps
import ChainScript.Proofs.TomlNumbers

/-! Options written down and read back. The document has a line for each setting, in which nothing but a number or a truth
value stands, and none for a total that is not set; so what the reader finds under the names are the settings, and its
defaults are not asked for. -/

namespace ChainScript
open Toml

namespace Options

/-- The document of the options. -/
def members (options : Options) : Members :=
  [("gas_limit", .integer options.gasLimit.toNat), ("gas_price", .integer options.gasPrice.toNat)] ++
    options.totalGas.toList.map (fun total => ("total_gas", .integer total.toNat)) ++
    [("dry_run", .bool options.dryRun)]

example : toText { totalGas := some 1 } =
    .ok "gas_limit = 2000000000\ngas_price = 1000000000\ntotal_gas = 1\ndry_run = false\n" := rfl

end Options

end ChainScript
