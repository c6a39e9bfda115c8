import ChainScript.Abi.Type
import ChainScript.Data.Keccak
import ChainScript.Text.Utf8

/-! Functions and log entries are named on the chain by the digest of their signature. -/

namespace ChainScript

/-- The first four bytes of a signature's digest. -/
def Selector.ofSignature (signature : String) : Selector :=
  (keccak256 (Text.utf8 signature)).first 4 (by decide)

/-- A name with the types of its parameters. -/
def signatureOf (name : String) (types : List AbiType) : String :=
  name ++ (AbiType.tuple types).toString

end ChainScript
