import ChainScript.Abi.Error
import ChainScript.Text.Blank

/-! Types read from text. A text is cut once into the texts of smaller types, from the outside in: an array
suffix is taken off first, then the parentheses of a tuple; what is left is the name of a plain type. Blanks
around every part are passed over. -/

namespace ChainScript

namespace AbiType

/-- How the text of a type is made up. -/
inductive Cut where
  /-- An element and what stands between the brackets after it. -/
  | suffixed (element size : List Char)
  /-- Ends with a bracket that was never opened. -/
  | unopened
  | tuple (members : List (List Char))
  | plain
deriving DecidableEq

/-- The members of a tuple, cut at the commas outside of `depth` open parentheses. -/
def splitMembers (depth : Nat) : List Char → List (List Char)
  | [] => [[]]
  | c :: rest =>
    if c = ',' ∧ depth = 0 then [] :: splitMembers depth rest
    else
      let inside := if c = '(' then depth + 1 else if c = ')' then depth - 1 else depth
      match splitMembers inside rest with
      | [] => [[c]]
      | member :: others => (c :: member) :: others

/-- Cuts a text at its last opening bracket; nothing if it has none. -/
def splitLastBracket? (text : List Char) : Option (List Char × List Char) :=
  match text.reverse.dropWhile (· ≠ '[') with
  | [] => none
  | _ :: before => some (before.reverse, (text.reverse.takeWhile (· ≠ '[')).reverse)

def cut (text : List Char) : Cut :=
  if text.getLast? = some ']' then
    match splitLastBracket? text.dropLast with
    | some (element, size) => .suffixed element size
    | none => .unopened
  else
    match text with
    | '(' :: inside =>
      if inside.getLast? = some ')' then
        if (Text.trim inside.dropLast).isEmpty then .tuple [] else .tuple (splitMembers 0 inside.dropLast)
      else .plain
    | _ => .plain

/-- What follows a word at the start of a text. -/
def afterWord? (word : String) (text : List Char) : Option (List Char) :=
  if word.toList.isPrefixOf text then some (text.drop word.length) else none

/-- A type that is neither array nor tuple. Integers without a width have 256 bits; byte strings with a width
have between 1 and 32 bytes. -/
def ofPlain? (text : List Char) : Option AbiType :=
  if text = "address".toList then some .address
  else if text = "bool".toList then some .bool
  else if text = "string".toList then some .string
  else if text = "bytes".toList then some .bytes
  else match afterWord? "uint" text with
    | some [] => some (.uint 256)
    | some bits => .uint <$> Text.size? bits
    | none =>
      match afterWord? "int" text with
      | some [] => some (.int 256)
      | some bits => .int <$> Text.size? bits
      | none => do
        let width ← Text.size? (← afterWord? "bytes" text)
        if 1 ≤ width ∧ width ≤ 32 then some (.fixedBytes width) else none

theorem length_le_of_mem_splitMembers {member text : List Char} {depth : Nat}
    (found : member ∈ splitMembers depth text) : member.length ≤ text.length := by
  induction text generalizing depth member with
  | nil => simp_all [splitMembers]
  | cons c rest ih =>
    simp only [splitMembers] at found
    split at found
    · rcases List.mem_cons.mp found with rfl | found
      · simp
      · exact Nat.le_succ_of_le (ih found)
    · split at found
      · simp_all
      · rename_i first others whole
        rcases List.mem_cons.mp found with rfl | found
        · have := @ih first _ (whole ▸ List.mem_cons_self)
          simp only [List.length_cons]; omega
        · have := @ih member _ (whole ▸ List.mem_cons_of_mem _ found)
          simp only [List.length_cons]; omega

theorem length_lt_of_cut_suffixed {text element size : List Char} (made : cut text = .suffixed element size) :
    element.length < text.length := by
  unfold cut splitLastBracket? at made
  split at made
  · split at made
    · rename_i pair
      split at pair
      · simp at pair
      · rename_i dropped
        obtain ⟨rfl, rfl⟩ := Cut.suffixed.inj made
        simp only [Option.some.injEq, Prod.mk.injEq] at pair
        have shorter := (List.dropWhile_suffix (l := text.dropLast.reverse) (fun c => decide (c ≠ '['))).length_le
        rw [dropped] at shorter
        simp only [List.length_cons, List.length_reverse, List.length_dropLast] at shorter
        rw [← pair.1, List.length_reverse]
        omega
    · simp at made
  · split at made
    · split at made
      · split at made <;> simp at made
      · simp at made
    · simp at made

theorem length_lt_of_cut_tuple {text member : List Char} {members : List (List Char)}
    (made : cut text = .tuple members) (found : member ∈ members) : member.length < text.length := by
  unfold cut at made
  split at made
  · split at made <;> simp at made
  · split at made
    · split at made
      · split at made
        · simp only [Cut.tuple.injEq] at made
          simp_all
        · simp only [Cut.tuple.injEq] at made
          rename_i inside _ _
          have := length_le_of_mem_splitMembers (made ▸ found)
          simp only [List.length_dropLast, List.length_cons] at this ⊢
          omega
      · simp at made
    · simp at made

theorem length_trim_le (text : List Char) : (Text.trim text).length ≤ text.length := by
  have first := (List.dropWhile_suffix (l := text) Text.isBlank).length_le
  have second := (List.dropWhile_suffix (l := (Text.trimStart text).reverse) Text.isBlank).length_le
  simp only [Text.trim, Text.trimEnd, Text.trimStart, List.length_reverse] at *
  omega

/-- The type that a text spells. A failure names the part that is no type, without the blanks around it. -/
def ofChars (text : List Char) : Except AbiError AbiType :=
  let fault := AbiError.unknownType (String.ofList (Text.trim text))
  have := length_trim_le text
  match made : cut (Text.trim text) with
  | .suffixed element size => do
    have := length_lt_of_cut_suffixed made
    let type ← ofChars element
    if size.isEmpty then return .array type
    else match Text.size? size with
      | some count => return .fixedArray type count
      | none => throw fault
  | .unopened => .error fault
  | .tuple members => do
    let types ← members.attach.mapM fun ⟨member, found⟩ =>
      have := length_lt_of_cut_tuple made found
      ofChars member
    return .tuple types
  | .plain =>
    match ofPlain? (Text.trim text) with
    | some type => .ok type
    | none => .error fault
termination_by text.length
decreasing_by all_goals omega

def ofString (text : String) : Except AbiError AbiType :=
  ofChars text.toList

end AbiType

end ChainScript
