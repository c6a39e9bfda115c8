/-! Whole numbers as doubles hold them: 53 binary digits, and below a bound. -/

namespace ChainScript.Double

/-- The least number that rounds to no finite double. -/
def bound : Nat := Nat.pow 2 1024 - Nat.pow 2 970

/-- The nearest number with 53 binary digits, of two the one that is even. -/
def round (value : Nat) : Nat :=
  let excess := value.log2 + 1 - 53
  let unit := Nat.pow 2 excess
  let kept := value / unit
  let rest := 2 * (value % unit)
  if unit < rest ∨ (rest = unit ∧ kept % 2 = 1) then (kept + 1) * unit else kept * unit

end ChainScript.Double
