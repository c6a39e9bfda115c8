/-! Tables of a TOML document, and the rules on where they may be added to. A table between braces is closed
as soon as it is written. A table with a header of its own can be added to by further headers but not by
dotted names; a table that dotted names made can be added to by them but cannot get a header. -/

namespace ChainScript

/-- How a table came to be. -/
inductive TomlOrigin where
  /-- Written between braces. -/
  | braces
  /-- Opened by a header of its own, or the document itself. -/
  | header
  /-- Named on the way in the header of a table inside it. -/
  | passed
  /-- Named on the way in a dotted name. -/
  | dotted
deriving DecidableEq

inductive Toml where
  | integer (value : Int)
  | bool (set : Bool)
  | text (content : String)
  | float (spelling : String)
  /-- A date, a time, or both. -/
  | moment (spelling : String)
  | list (items : List Toml)
  | table (origin : TomlOrigin) (members : List (String × Toml))
  /-- Tables that share a repeated header; the last one can be added to. -/
  | tables (elements : List (List (String × Toml)))
deriving Inhabited

namespace Toml

abbrev Members := List (String × Toml)

/-- Gives a name a value; a name that is there already keeps its place. -/
def put (name : String) (value : Toml) : Members → Members
  | [] => [(name, value)]
  | (other, old) :: rest =>
    if name = other then (name, value) :: rest else (other, old) :: put name value rest

def erase (name : String) (members : Members) : Members :=
  members.filter (·.1 ≠ name)

/-- Changes the table at the end of a path. Tables that are missing on the way are made, as `dotted` tells. -/
def changeAt (dotted : Bool) (change : TomlOrigin → Members → Option Members) :
    (path : List String) → TomlOrigin → Members → Option Members
  | [], origin, members => change origin members
  | name :: path, _, members =>
    match members.lookup name with
    | none => do
      let origin := if dotted then .dotted else .passed
      let inner ← changeAt dotted change path origin []
      return put name (.table origin inner) members
    | some (.table origin inner) =>
      if origin = .braces ∨ (dotted ∧ origin = .header) then none
      else do
        let inner ← changeAt dotted change path origin inner
        return put name (.table origin inner) members
    | some (.tables elements) =>
      match elements.getLast? with
      | none => none
      | some inner => do
        let inner ← changeAt dotted change path .header inner
        return put name (.tables (elements.dropLast ++ [inner])) members
    | some _ => none

/-- Adds a value under a dotted name. Only tables that dotted names made can take it, apart from the one in
which the name is written. -/
def insert (path : List String) (name : String) (value : Toml) (members : Members) : Option Members :=
  changeAt true (fun origin members =>
    if (path.isEmpty || origin = .dotted) && (members.lookup name).isNone then
      some (members ++ [(name, value)])
    else none) path .header members

/-- A document under construction: what is finished, and the table that is open. -/
structure Draft where
  root : Members := []
  /-- The header of the open table; none for the document itself. -/
  header : Option (List String × String) := none
  /-- The header may be repeated. -/
  repeated : Bool := false
  members : Members := []

namespace Draft

/-- Puts the open table where its header says. -/
def close (draft : Draft) : Option Members :=
  match draft.header with
  | none => some draft.members
  | some (path, name) =>
    changeAt false (fun _ members =>
      match draft.repeated, members.lookup name with
      | true, none => some (put name (.tables [draft.members]) members)
      | true, some (.tables elements) => some (put name (.tables (elements ++ [draft.members])) members)
      | false, none => some (put name (.table .header draft.members) members)
      | _, _ => none) path .header draft.root

def add (draft : Draft) (path : List String) (name : String) (value : Toml) : Option Draft := do
  let members ← insert path name value draft.members
  return { draft with members := members }

/-- The table or value at the end of a path of headers, and the document without it. -/
def takeOut (root : Members) (path : List String) (name : String) : Option (Option Toml × Members) := do
  let rest ← changeAt false (fun _ members => some (erase name members)) path .header root
  return (find root path, rest)
where
  /-- What the path leads to. -/
  find (members : Members) : List String → Option Toml
    | [] => members.lookup name
    | step :: path =>
      match members.lookup step with
      | some (.table _ inner) => find inner path
      | some (.tables elements) => find (elements.getLastD []) path
      | _ => none

/-- Opens the table of a header. A table that headers only passed through so far keeps what it holds. -/
def openTable (draft : Draft) (path : List String) (name : String) : Option Draft := do
  let root ← draft.close
  let (found, rest) ← takeOut root path name
  match found with
  | none => some ⟨rest, some (path, name), false, []⟩
  | some (.table .passed members) => some ⟨rest, some (path, name), false, members⟩
  | some _ => none

/-- Opens one more table of a repeated header. -/
def openElement (draft : Draft) (path : List String) (name : String) : Option Draft := do
  let root ← draft.close
  let (found, _) ← takeOut root path name
  match found with
  | none | some (.tables _) => some ⟨root, some (path, name), true, []⟩
  | some _ => none

end Draft

end Toml

end ChainScript
