import ChainScript.Proofs.Numerals
import ChainScript.Proofs.TomlLines

/-! Numbers as they are written in documents. The digits of a number have no sign, no mark of a base and no needless zero,
so wherever integers reach so far they are read as that number and as nothing else. -/

namespace ChainScript.Toml
open Text

end ChainScript.Toml
