/-! What a parameter declares about the words it takes, and the rule on where a parameter that takes all the
rest may stand: only implicit parameters, which take nothing, can follow it. -/

namespace ChainScript

/-- The name of a parameter and the way it takes words. -/
structure Slot where
  name : String
  /-- Takes no word; its value comes from the world. -/
  implicit : Bool := false
  /-- Takes every word that is left. -/
  variadic : Bool := false
  /-- Reads the members of its word one by one. -/
  mapped : Bool := false
  /-- Is bound to nothing when no word is left. -/
  nullable : Bool := false
deriving DecidableEq

/-- Why slots cannot stand together. -/
inductive SlotFault where
  | manyVariadic (count : Nat)
  | afterVariadic (follower variadic : String)
deriving DecidableEq

namespace SlotFault

def message : SlotFault → String
  | manyVariadic count => s!"{count} variadic arguments, at most one allowed"
  | afterVariadic follower variadic => s!"argument {follower} follows variadic argument {variadic}"

/-- What is wrong with the slots, if anything. -/
def find? (slots : List Slot) : Option SlotFault :=
  let count := slots.countP (·.variadic)
  if 1 < count then some (manyVariadic count)
  else match slots.dropWhile (!·.variadic) with
    | [] => none
    | variadic :: followers =>
      (followers.find? (!·.implicit)).map fun follower => afterVariadic follower.name variadic.name

end SlotFault

end ChainScript
