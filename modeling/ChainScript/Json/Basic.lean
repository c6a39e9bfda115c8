import ChainScript.Data.Double

/-! Documents in JSON, as far as their readers look into them. A text may hold halves of surrogate pairs; such
a text is well formed but spells no characters, and only readers that skip it accept it. -/

namespace ChainScript

/-- A number as it is written: the digits before and after the point, and the exponent. -/
structure JsonNumber where
  whole : List Nat
  fraction : List Nat
  exponent : Int

inductive Json where
  | null
  | bool (set : Bool)
  | number (number : JsonNumber)
  /-- The characters of a text, if it spells any. -/
  | text (content : Option String)
  | list (items : List Json)
  /-- The members in the order in which they are written; names may repeat. -/
  | object (members : List (Option String × Json))
deriving Inhabited

namespace JsonNumber

/-- The leading digits that make a number below `2 ^ 64`, and how many digits are left. -/
def leading (value : Nat) : List Nat → Nat × Nat
  | [] => (value, 0)
  | digit :: rest =>
    if 10 * value + digit < UInt64.size then leading (10 * value + digit) rest else (value, rest.length + 1)

/-- Whether the number is no greater than what a double can hold. It counts as its leading digits times a
power of ten, each rounded and the product rounded again. -/
def inDoubleRange (number : JsonNumber) : Bool :=
  let (whole, dropped) := leading 0 number.whole
  let (digits, unread) := leading whole number.fraction
  let exponent := number.exponent + dropped - (number.fraction.length - unread : Nat)
  digits = 0 || exponent < 0 ||
    (exponent ≤ 308 && Double.round digits * Double.round (Nat.pow 10 exponent.toNat) < Double.bound)

end JsonNumber

namespace Json

/-- The value of a record field in an object: at most one member may have its name. -/
def member? (name : String) (members : List (Option String × Json)) : Option (Option Json) :=
  match members.filter (·.1 = some name) with
  | [] => some none
  | [found] => some (some found.2)
  | _ => none

/-- The fields of a record by name, missing ones left open. A record is written as an object, in which other
names are ignored, or as a list of its first fields in order. -/
def fields? (names : List String) : Json → Option (List (Option Json))
  | .object members =>
    if members.all (·.1.isSome) then names.mapM fun name => member? name members else none
  | .list items =>
    if items.length ≤ names.length then
      some (items.map some ++ List.replicate (names.length - items.length) none)
    else none
  | _ => none

def text? : Json → Option String
  | .text content => content
  | _ => none

/-- The members of an object with a name once only, where the last one with a name counts. -/
def lastOfEach : List (Option String × Json) → List (Option String × Json)
  | [] => []
  | field :: rest =>
    if rest.any (·.1 = field.1) then lastOfEach rest else field :: lastOfEach rest

mutual
/-- The document as a plain value: lists and objects at most `levels` deep, all texts and names spelled in
characters, all numbers in the range of doubles, and no name twice. -/
def plain? (levels : Nat) : Json → Option Json
  | .null => some .null
  | .bool set => some (.bool set)
  | .number written => if written.inDoubleRange then some (.number written) else none
  | .text content => if content.isSome then some (.text content) else none
  | .list items => if levels = 0 then none else .list <$> plainItems? (levels - 1) items
  | .object members =>
    if levels = 0 then none else (fun members => .object (lastOfEach members)) <$> plainMembers? (levels - 1) members

def plainItems? (levels : Nat) : List Json → Option (List Json)
  | [] => some []
  | item :: rest => do
    let item ← plain? levels item
    let rest ← plainItems? levels rest
    return item :: rest

def plainMembers? (levels : Nat) : List (Option String × Json) → Option (List (Option String × Json))
  | [] => some []
  | (name, value) :: rest => do
    let value ← plain? levels value
    let rest ← plainMembers? levels rest
    if name.isSome then return (name, value) :: rest else none
end

end Json

end ChainScript
