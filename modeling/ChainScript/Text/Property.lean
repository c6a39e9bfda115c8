/-!
Character properties are given as ascending ranges of character numbers; a character is sought from the
front and the search stops at the first range that starts after it.
-/

namespace ChainScript.Text

/-- Whether a number lies in one of the ascending ranges, ends included. -/
def inRanges (code : Nat) : List (Nat × Nat) → Bool
  | [] => false
  | (first, last) :: rest =>
    if code < first then false else if code ≤ last then true else inRanges code rest

end ChainScript.Text
