/-! One line of a script as a tree: a word, or a group of trees. A group that holds nothing but another group
counts as that group, and a word counts as a group of one. -/

namespace ChainScript

inductive Event where
  | word (token : String)
  | group (items : List Event)
deriving Inhabited

namespace Event

mutual
def decEq (left right : Event) : Decidable (left = right) :=
  match left, right with
  | .word token, .word other =>
    if same : token = other then isTrue (by rw [same]) else isFalse (by simp [same])
  | .group items, .group others =>
    match decEqList items others with
    | isTrue same => isTrue (by rw [same])
    | isFalse differ => isFalse (by simp [differ])
  | .word _, .group _ => isFalse (by simp)
  | .group _, .word _ => isFalse (by simp)

def decEqList (left right : List Event) : Decidable (left = right) :=
  match left, right with
  | [], [] => isTrue rfl
  | event :: rest, other :: others =>
    match decEq event other, decEqList rest others with
    | isTrue same, isTrue sameRest => isTrue (by rw [same, sameRest])
    | isFalse differ, _ => isFalse (by simp [differ])
    | _, isFalse differ => isFalse (by simp [differ])
  | [], _ :: _ => isFalse (by simp)
  | _ :: _, [] => isFalse (by simp)
end

instance : DecidableEq Event := decEq

def isWord : Event → Bool
  | .word _ => true
  | .group _ => false

def isGroup (event : Event) : Bool :=
  !event.isWord

def token? : Event → Option String
  | .word token => some token
  | .group _ => none

def items? : Event → Option (List Event)
  | .word _ => none
  | .group items => some items

/-- Takes off one layer if the event is a group of one group. -/
def unwrap : Event → Event
  | .group [.group items] => .group items
  | event => event

/-- The members of a group; a word is its own only member. -/
def items : Event → List Event
  | .group items => items
  | .word token => [.word token]

mutual
/-- Groups are written between parentheses, their members apart by one space. -/
def toString : Event → String
  | .word token => token
  | .group items => "(" ++ " ".intercalate (toStrings items) ++ ")"

def toStrings : List Event → List String
  | [] => []
  | event :: rest => event.toString :: toStrings rest
end

mutual
/-- The number of words and groups in the tree. -/
def size : Event → Nat
  | .word _ => 1
  | .group items => 1 + sizes items

def sizes : List Event → Nat
  | [] => 0
  | event :: rest => event.size + sizes rest
end

/-- Why an event has the wrong shape for the one who reads it. -/
inductive ShapeFault where
  | notWord (event : Event)
  | notGroup (event : Event)
  /-- A group with other than `least` members, or than between `least` and `most`. -/
  | wrongLength (least : Nat) (most : Option Nat) (items : List Event)
deriving DecidableEq

def ShapeFault.message : ShapeFault → String
  | .notWord event => s!"expected string argument, got {event.toString}"
  | .notGroup event => s!"expected list, got {event.toString}"
  | .wrongLength least most items =>
    let range := match most with
      | none => s!"{least}"
      | some most => s!"{least}-{most}"
    s!"expected list of length {range}, got length {items.length} ({(Event.group items).toString})"

def requireWord : Event → Except ShapeFault String
  | .word token => .ok token
  | .group items => .error (.notWord (.group items))

/-- The members of a group that has `least` of them, or between `least` and `most`. -/
def requireLength (least : Nat) (most : Option Nat) : Event → Except ShapeFault (List Event)
  | .word token => .error (.notGroup (.word token))
  | .group items =>
    let fits := match most with
      | none => items.length == least
      | some most => decide (least ≤ items.length ∧ items.length ≤ most)
    if fits then .ok items else .error (.wrongLength least most items)

end Event

end ChainScript
