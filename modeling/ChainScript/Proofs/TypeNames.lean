import ChainScript.Proofs.Numerals
import ChainScript.Proofs.TypeMembers

/-! The names of plain types, and what they are made of. A name has neither parentheses nor brackets nor commas, so it
is never cut. -/

namespace ChainScript.AbiType
open Text

inductive Names : List Char → AbiType → Prop where
  | address : Names "address".toList .address
  | bool : Names "bool".toList .bool
  | string : Names "string".toList .string
  | bytes : Names "bytes".toList .bytes
  | uint : Names "uint".toList (.uint 256)
  | uintOf {bits : List Char} {width : Nat} (numeral : Numeral bits width) : Names ("uint".toList ++ bits) (.uint width)
  | int : Names "int".toList (.int 256)
  | intOf {bits : List Char} {width : Nat} (numeral : Numeral bits width) : Names ("int".toList ++ bits) (.int width)
  | bytesOf {digits : List Char} {width : Nat} (numeral : Numeral digits width) (some : 1 ≤ width)
      (fits : width ≤ 32) : Names ("bytes".toList ++ digits) (.fixedBytes width)

theorem afterWord?_eq_some_iff {word : String} {text rest : List Char} :
    afterWord? word text = some rest ↔ text = word.toList ++ rest := by
  unfold afterWord?
  split
  next starts =>
    obtain ⟨tail, rfl⟩ := List.isPrefixOf_iff_prefix.mp starts
    rw [← String.length_toList, List.drop_left, Option.some.injEq, List.append_cancel_left_eq]
  next other =>
    constructor
    · intro none
      cases none
    · intro made
      exact absurd (List.isPrefixOf_iff_prefix.mpr ⟨rest, made.symm⟩) other

private theorem names_of_ofPlain? {text : List Char} {type : AbiType} (read : ofPlain? text = some type) :
    Names text type := by
  unfold ofPlain? at read
  split at read
  next same =>
    cases read
    exact same ▸ .address
  split at read
  next same =>
    cases read
    exact same ▸ .bool
  split at read
  next same =>
    cases read
    exact same ▸ .string
  split at read
  next same =>
    cases read
    exact same ▸ .bytes
  split at read
  next found =>
    cases read
    exact afterWord?_eq_some_iff.mp found ▸ .uint
  next bits _ found =>
    obtain ⟨width, sized, rfl⟩ := Option.map_eq_some_iff.mp read
    exact afterWord?_eq_some_iff.mp found ▸ .uintOf (size?_eq_some_iff.mp sized)
  split at read
  next found =>
    cases read
    exact afterWord?_eq_some_iff.mp found ▸ .int
  next bits _ found =>
    obtain ⟨width, sized, rfl⟩ := Option.map_eq_some_iff.mp read
    exact afterWord?_eq_some_iff.mp found ▸ .intOf (size?_eq_some_iff.mp sized)
  next =>
    obtain ⟨digits, found, read⟩ := Option.bind_eq_some_iff.mp read
    obtain ⟨width, sized, read⟩ := Option.bind_eq_some_iff.mp read
    split at read
    next room =>
      cases read
      exact afterWord?_eq_some_iff.mp found ▸ .bytesOf (size?_eq_some_iff.mp sized) room.1 room.2
    next => cases read

private theorem ofPlain?_of_names {text : List Char} {type : AbiType} (name : Names text type) :
    ofPlain? text = some type := by
  cases name with
  | address => rfl
  | bool => rfl
  | string => rfl
  | bytes => rfl
  | uint => rfl
  | uintOf numeral =>
    obtain ⟨c, rest, rfl⟩ := List.exists_cons_of_ne_nil numeral.ne_nil
    have found : afterWord? "uint" ("uint".toList ++ c :: rest) = some (c :: rest) := afterWord?_eq_some_iff.mpr rfl
    rw [ofPlain?, if_neg (by simp), if_neg (by simp), if_neg (by simp), if_neg (by simp), found]
    exact congrArg (Option.map AbiType.uint) (size?_eq_some_iff.mpr numeral)
  | int => rfl
  | intOf numeral =>
    obtain ⟨c, rest, rfl⟩ := List.exists_cons_of_ne_nil numeral.ne_nil
    have found : afterWord? "int" ("int".toList ++ c :: rest) = some (c :: rest) := afterWord?_eq_some_iff.mpr rfl
    have other : afterWord? "uint" ("int".toList ++ c :: rest) = none := by simp [afterWord?]
    rw [ofPlain?, if_neg (by simp), if_neg (by simp), if_neg (by simp), if_neg (by simp), other, found]
    exact congrArg (Option.map AbiType.int) (size?_eq_some_iff.mpr numeral)
  | @bytesOf digits width numeral some fits =>
    have found : afterWord? "bytes" ("bytes".toList ++ digits) = digits := afterWord?_eq_some_iff.mpr rfl
    have unsigned : afterWord? "uint" ("bytes".toList ++ digits) = none := by simp [afterWord?]
    have signed : afterWord? "int" ("bytes".toList ++ digits) = none := by simp [afterWord?]
    rw [ofPlain?, if_neg (by simp), if_neg (by simp), if_neg (by simp), if_neg (by simp [numeral.ne_nil]), unsigned,
      signed, found]
    simp [size?_eq_some_iff.mpr numeral, some, fits]

theorem ofPlain?_eq_some_iff {text : List Char} {type : AbiType} : ofPlain? text = some type ↔ Names text type :=
  ⟨names_of_ofPlain?, ofPlain?_of_names⟩

namespace Names

variable {text : List Char} {type : AbiType}

theorem characters (name : Names text type) : ∀ c ∈ text, c.isLower = true ∨ isDigit c = true ∨ c = '+' := by
  have numbered {word digits : List Char} {value : Nat} (lower : ∀ c ∈ word, c.isLower = true)
      (numeral : Numeral digits value) :
      ∀ c ∈ word ++ digits, c.isLower = true ∨ isDigit c = true ∨ c = '+' := by
    intro c member
    rcases List.mem_append.mp member with inside | inside
    · exact .inl (lower c inside)
    · exact .inr (numeral.characters c inside)
  cases name with
  | address | bool | string | bytes | uint | int => exact fun c member => .inl (List.all_eq_true.mp rfl c member)
  | uintOf numeral => exact numbered (List.all_eq_true.mp rfl) numeral
  | intOf numeral => exact numbered (List.all_eq_true.mp rfl) numeral
  | bytesOf numeral => exact numbered (List.all_eq_true.mp rfl) numeral

theorem not_mem (name : Names text type) {c : Char}
    (other : ¬(c.isLower = true ∨ isDigit c = true ∨ c = '+')) : c ∉ text :=
  fun member => other (name.characters c member)

theorem unmarked (name : Names text type) : Unmarked text :=
  .of_not_mem (name.not_mem (by decide)) (name.not_mem (by decide)) (name.not_mem (by decide))

theorem not_blank (name : Names text type) : ¬Blank text := by
  intro blank
  cases name with
  | address => exact blank.not_mem (c := 'a') (by decide) (by decide)
  | bool => exact blank.not_mem (c := 'b') (by decide) (by decide)
  | string | bytes | uint | int => exact blank.not_mem (c := 't') (by decide) (by decide)
  | uintOf | intOf | bytesOf =>
    exact blank.not_mem (c := 't') (by decide) (List.mem_append_left _ (by decide))

theorem cut_eq (name : Names text type) : cut text = .plain := by
  refine cut_eq_plain (fun closed => ?_) (fun opened => ?_)
  · exact name.not_mem (by decide) (List.mem_of_getLast? closed)
  · exact name.not_mem (by decide) (List.mem_of_head? opened)

end Names

end ChainScript.AbiType
