import ChainScript.Proofs.AbiFitting
import ChainScript.Proofs.TypeGrammar

/-! The spelling of a type in signatures is one of its texts. It has no blanks, so nothing is passed over when it is
read, and each part of it is the spelling of a part of the type. -/

namespace ChainScript.AbiType
open Text

/-- Byte strings of a fixed size have between 1 and 32 bytes; other widths and sizes are of 64 bits. -/
def Measured : AbiType → Prop
  | .uint bits | .int bits => bits < 2 ^ 64
  | .fixedBytes width => 1 ≤ width ∧ width ≤ 32
  | .fixedArray _ size => size < 2 ^ 64
  | _ => True

def spelling (type : AbiType) : List Char :=
  type.toString.toList

theorem spelling_uint (bits : Nat) : (uint bits).spelling = "uint".toList ++ (ToString.toString bits).toList := by
  rw [spelling, toString, String.toList_append]

theorem spelling_int (bits : Nat) : (int bits).spelling = "int".toList ++ (ToString.toString bits).toList := by
  rw [spelling, toString, String.toList_append]

theorem spelling_fixedBytes (width : Nat) :
    (fixedBytes width).spelling = "bytes".toList ++ (ToString.toString width).toList := by
  rw [spelling, toString, String.toList_append]

theorem spelling_array (element : AbiType) : (array element).spelling = element.spelling ++ "[]".toList := by
  rw [spelling, toString, String.toList_append, spelling]

theorem spelling_fixedArray (element : AbiType) (size : Nat) :
    (fixedArray element size).spelling = element.spelling ++ '[' :: (ToString.toString size).toList ++ [']'] := by
  simp [spelling, toString]

private theorem toStrings_eq_map (types : List AbiType) : toStrings types = types.map toString := by
  induction types with
  | nil => rfl
  | cons type rest ih => rw [toStrings, ih, List.map_cons]

theorem spelling_tuple (members : List AbiType) :
    (tuple members).spelling = '(' :: joined (members.map spelling) ++ [')'] := by
  have inside : (",".intercalate (toStrings members)).toList = joined (members.map spelling) := by
    rw [String.toList_intercalate, toStrings_eq_map, List.map_map]
    rfl
  rw [spelling, toString, String.toList_append, String.toList_append, inside]
  rfl

theorem isBlank_of_isDigit {c : Char} (digit : isDigit c = true) : isBlank c = false := by
  simp only [isDigit, Bool.and_eq_true, decide_eq_true_eq] at digit
  have low : 48 ≤ c.toNat := digit.1
  have high : c.toNat ≤ 57 := digit.2
  simp only [isBlank, inRanges, blankRanges]
  grind

theorem shown_of_numeral {text : List Char} {value : Nat} (numeral : Numeral text value) : Shown text := by
  intro c member
  rcases numeral.characters c member with digit | rfl
  · exact isBlank_of_isDigit digit
  · decide

private theorem shown_toString (value : Nat) : Shown (ToString.toString value).toList :=
  fun c member => isBlank_of_isDigit (isDigit_of_mem_toString c member)

private theorem shown_joined {members : List (List Char)} (each : ∀ member ∈ members, Shown member) :
    Shown (joined members) := by
  induction members with
  | nil => exact List.forall_mem_nil _
  | cons member others ih =>
    rw [List.forall_mem_cons] at each
    cases others with
    | nil =>
      rw [joined_singleton]
      exact each.1
    | cons next rest =>
      rw [joined_cons member (List.cons_ne_nil _ _)]
      exact each.1.append (List.forall_mem_cons.mpr ⟨by decide, ih each.2⟩)

theorem shown_spelling (type : AbiType) : Shown type.spelling := by
  induction type using by_parts with
  | address | bool | bytes | string => decide
  | uint bits =>
    rw [spelling_uint]
    exact .append (by decide) (shown_toString bits)
  | int bits =>
    rw [spelling_int]
    exact .append (by decide) (shown_toString bits)
  | fixedBytes width =>
    rw [spelling_fixedBytes]
    exact .append (by decide) (shown_toString width)
  | array element ih =>
    rw [spelling_array]
    exact ih.append (by decide)
  | fixedArray element size ih =>
    rw [spelling_fixedArray]
    exact (ih.append (List.forall_mem_cons.mpr ⟨by decide, shown_toString size⟩)).append (by decide)
  | tuple members ih =>
    rw [spelling_tuple]
    have inside : Shown (joined (members.map spelling)) := shown_joined (List.forall_mem_map.mpr ih)
    exact Shown.append (List.forall_mem_cons.mpr ⟨by decide, inside⟩) (by decide)

theorem spells_spelling {type : AbiType} (measured : Every Measured type) : Spells type.spelling type := by
  induction type using by_parts with
  | address => exact .plain .address
  | bool => exact .plain .bool
  | bytes => exact .plain .bytes
  | string => exact .plain .string
  | uint bits =>
    refine .plain ?_
    rw [(shown_spelling _).trim_eq, spelling_uint]
    exact .uintOf (numeral_toString measured)
  | int bits =>
    refine .plain ?_
    rw [(shown_spelling _).trim_eq, spelling_int]
    exact .intOf (numeral_toString measured)
  | fixedBytes width =>
    have room : width < 2 ^ 64 := Nat.lt_of_le_of_lt measured.2 (by decide)
    refine .plain ?_
    rw [(shown_spelling _).trim_eq, spelling_fixedBytes]
    exact .bytesOf (numeral_toString room) measured.1 measured.2
  | array element ih =>
    refine .array (ih measured.2) ?_
    rw [(shown_spelling _).trim_eq, spelling_array]
  | fixedArray element size ih =>
    refine .fixedArray (ih measured.2) (numeral_toString measured.1) ?_
    rw [(shown_spelling _).trim_eq, spelling_fixedArray]
  | tuple members ih =>
    have each := everyAll_iff.mp measured.2
    rcases eq_or_ne members [] with rfl | some
    · exact .unit (List.forall_mem_nil _) rfl
    · -- A grammar of pairs: each member goes with its own spelling.
      let pairs := members.map fun member => (member.spelling, member)
      have texts : pairs.map Prod.fst = members.map spelling := List.map_map
      have types : pairs.map Prod.snd = members := List.map_map.trans (List.map_id _)
      have spelled : ∀ pair ∈ pairs, Spells pair.1 pair.2 :=
        List.forall_mem_map.mpr fun member found => ih member found (each member found)
      have whole : trim (tuple members).spelling = '(' :: joined (pairs.map Prod.fst) ++ [')'] := by
        rw [(shown_spelling _).trim_eq, spelling_tuple, texts]
      have made := Spells.tuple (fun none => some (List.map_eq_nil_iff.mp none)) spelled whole
      rwa [types] at made

private theorem Names.measured {text : List Char} {type : AbiType} (name : Names text type) : Every Measured type := by
  cases name with
  | address | bool | string | bytes => trivial
  | uint | int => exact (by decide : 256 < 2 ^ 64)
  | uintOf numeral | intOf numeral => exact numeral.fits
  | bytesOf numeral some fits => exact ⟨some, fits⟩

/-- Only types with such widths and sizes have texts at all. -/
theorem Spells.measured {text : List Char} {type : AbiType} (spells : Spells text type) : Every Measured type := by
  induction spells with
  | plain name => exact name.measured
  | array each made ih => exact ⟨trivial, ih⟩
  | fixedArray each numeral made ih => exact ⟨numeral.fits, ih⟩
  | unit blank made => exact ⟨trivial, trivial⟩
  | tuple some each made ih => exact ⟨trivial, everyAll_iff.mpr (List.forall_mem_map.mpr ih)⟩

/-- The spelling of a type reads back as the type exactly when the widths and sizes in it are such that a text can have
them, however deep its arrays and tuples go; so whatever text a type was read from, its spelling is read as the same
type. -/
theorem ofString_toString (type : AbiType) :
    (ofString type.toString = .ok type ↔ Every Measured type) ∧
      ∀ text, ofString text = .ok type → ofString type.toString = .ok type := by
  have back : Every Measured type → ofString type.toString = .ok type :=
    fun measured => ofChars_of_spells (spells_spelling measured)
  have own (text : String) (read : ofString text = .ok type) : Every Measured type :=
    (spells_of_ofChars read).measured
  exact ⟨⟨own _, back⟩, fun text read => back (own text read)⟩

theorem ofString_toString_nested :
    let type : AbiType := .tuple [.fixedArray (.uint 256) 0, .tuple []]
    ofString "( uint[+00] , ( ) )" = .ok type ∧ type.toString = "(uint256[0],())" ∧
      ofString "(uint256[0],())" = .ok type := by
  intro type
  have uint : Spells "uint".toList (.uint 256) := .plain (ofPlain?_eq_some_iff.mp (by decide))
  have none : Spells " uint[+00] ".toList (.fixedArray (.uint 256) 0) :=
    .fixedArray uint (size?_eq_some_iff.mp (by decide : size? "+00".toList = some 0)) (by decide)
  have unit : Spells " ( ) ".toList (.tuple []) := .unit (by decide : Blank [' ']) (by decide)
  have whole : Spells "( uint[+00] , ( ) )".toList type :=
    @Spells.tuple _ [(" uint[+00] ".toList, .fixedArray (.uint 256) 0), (" ( ) ".toList, .tuple [])]
      (List.cons_ne_nil _ _) (List.forall_mem_cons.mpr ⟨none, List.forall_mem_singleton.mpr unit⟩) (by decide)
  have read : ofString "( uint[+00] , ( ) )" = .ok type := ofChars_of_spells whole
  have shown : type.toString = "(uint256[0],())" := by decide
  exact ⟨read, shown, shown ▸ (ofString_toString type).2 _ read⟩

end ChainScript.AbiType
