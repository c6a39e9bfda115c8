/-! Running totals of gas. Several meters can share one total, so what one of them adds all of them show.
Totals have 64 bits and start again from zero when they run over. -/

namespace ChainScript

structure GasMeters where
  totals : List UInt64 := [0]
  /-- The total that each meter shows. -/
  meters : List Nat := [0]
deriving DecidableEq

namespace GasMeters

/-- One more meter with a total of its own. -/
def new (gas : GasMeters) : GasMeters :=
  ⟨gas.totals ++ [0], gas.meters ++ [gas.totals.length]⟩

/-- One more meter that shares the total of another. -/
def clone (gas : GasMeters) (meter : Nat) : GasMeters :=
  match gas.meters[meter]? with
  | some total => { gas with meters := gas.meters ++ [total] }
  | none => gas

def add (gas : GasMeters) (meter : Nat) (amount : UInt64) : GasMeters :=
  match gas.meters[meter]? with
  | some total => { gas with totals := gas.totals.modify total (· + amount) }
  | none => gas

/-- What the meters show, in order. -/
def values (gas : GasMeters) : List UInt64 :=
  gas.meters.map fun total => (gas.totals[total]?).getD 0

end GasMeters

end ChainScript
