import ChainScript.Contract.Interface
import ChainScript.Proofs.TypeSpelling

/-! Functions told apart by their signatures. The spelling of a type is cut into the spellings of its parts, also where
its widths and sizes are such that no text is read as the type; so equal spellings come from equal parts, all the way
down. -/

namespace ChainScript

namespace AbiType
open Text

private theorem unmarked_toString (value : Nat) : Unmarked (ToString.toString value).toList := by
  have absent {c : Char} (other : isDigit c = false) : c ∉ (ToString.toString value).toList := by
    intro member
    rw [isDigit_of_mem_toString c member] at other
    cases other
  exact .of_not_mem (absent (by decide)) (absent (by decide)) (absent (by decide))

private theorem not_blank_toString (value : Nat) : ¬Blank (ToString.toString value).toList := by
  intro blank
  obtain ⟨c, member⟩ := List.exists_mem_of_ne_nil _ (toString_ne_nil value)
  have dark := isBlank_of_isDigit (isDigit_of_mem_toString c member)
  rw [blank c member] at dark
  cases dark

private theorem member_numbered {word : List Char} {type : AbiType} (name : Names word type) (value : Nat) :
    Member (word ++ (ToString.toString value).toList) :=
  (Member.of_unmarked name.unmarked name.not_blank).append (unmarked_toString value) (not_blank_toString value)

/-- Every spelling can be a member of a tuple. -/
theorem member_spelling (type : AbiType) : Member type.spelling := by
  induction type using by_parts with
  | address => exact .of_unmarked Names.address.unmarked Names.address.not_blank
  | bool => exact .of_unmarked Names.bool.unmarked Names.bool.not_blank
  | bytes => exact .of_unmarked Names.bytes.unmarked Names.bytes.not_blank
  | string => exact .of_unmarked Names.string.unmarked Names.string.not_blank
  | uint bits => exact spelling_uint bits ▸ member_numbered .uint bits
  | int bits => exact spelling_int bits ▸ member_numbered .int bits
  | fixedBytes width => exact spelling_fixedBytes width ▸ member_numbered .bytes width
  | array element ih =>
    rw [spelling_array]
    exact ih.append (unmarked_brackets (List.forall_mem_nil _)) (not_blank_brackets [])
  | fixedArray element size ih =>
    rw [spelling_fixedArray, List.append_assoc]
    exact ih.append (unmarked_brackets (unmarked_toString size)) (not_blank_brackets _)
  | tuple members ih =>
    rw [spelling_tuple]
    rcases eq_or_ne members [] with rfl | some
    · exact .unit (List.forall_mem_nil _)
    · exact .parenthesized (fun none => some (List.map_eq_nil_iff.mp none)) (List.forall_mem_map.mpr ih)

/-- How the spelling of a type is made up. -/
def parts : AbiType → Cut
  | .array element => .suffixed element.spelling []
  | .fixedArray element size => .suffixed element.spelling (ToString.toString size).toList
  | .tuple members => .tuple (members.map spelling)
  | _ => .plain

private theorem cut_numbered {word : List Char} {type : AbiType} (name : Names word type) (value : Nat) :
    cut (word ++ (ToString.toString value).toList) = .plain := by
  have absent {c : Char} (other : ¬(c.isLower = true ∨ isDigit c = true ∨ c = '+')) :
      c ∉ word ++ (ToString.toString value).toList := by
    intro member
    rcases List.mem_append.mp member with inside | digit
    · exact name.not_mem other inside
    · exact other (.inr (.inl (isDigit_of_mem_toString c digit)))
  refine cut_eq_plain (fun closed => ?_) (fun opened => ?_)
  · exact absent (by decide) (List.mem_of_getLast? closed)
  · exact absent (by decide) (List.mem_of_head? opened)

theorem cut_spelling (type : AbiType) : cut type.spelling = type.parts := by
  cases type with
  | address => exact Names.address.cut_eq
  | bool => exact Names.bool.cut_eq
  | bytes => exact Names.bytes.cut_eq
  | string => exact Names.string.cut_eq
  | uint bits => exact spelling_uint bits ▸ cut_numbered .uint bits
  | int bits => exact spelling_int bits ▸ cut_numbered .int bits
  | fixedBytes width => exact spelling_fixedBytes width ▸ cut_numbered .bytes width
  | array element => exact spelling_array element ▸ cut_array element.spelling
  | fixedArray element size =>
    rw [spelling_fixedArray]
    exact cut_eq_suffixed_iff.mpr ⟨rfl, fun member => absurd (isDigit_of_mem_toString _ member) (by decide)⟩
  | tuple members =>
    rw [spelling_tuple, parts]
    rcases eq_or_ne members [] with rfl | some
    · exact cut_eq_tuple_iff.mpr ⟨[], rfl, .inl ⟨List.forall_mem_nil _, rfl⟩⟩
    · exact cut_members (fun none => some (List.map_eq_nil_iff.mp none))
        (List.forall_mem_map.mpr fun member _ => member_spelling member)

private theorem eq_of_numbers {word : List Char} {make : Nat → AbiType}
    (spelled : ∀ value, (make value).spelling = word ++ (ToString.toString value).toList) {value other : Nat}
    (same : (make value).spelling = (make other).spelling) : make value = make other := by
  rw [spelled, spelled, List.append_cancel_left_eq] at same
  rw [toString_injective same]

/-- Types that are spelled in one part differ in their word or in the number behind it. -/
private theorem eq_of_plain {type other : AbiType} (single : type.parts = .plain) (plain : other.parts = .plain)
    (same : type.spelling = other.spelling) : type = other := by
  cases type with
  | array | fixedArray | tuple => cases single
  | uint bits =>
    cases other with
    | uint others => exact eq_of_numbers spelling_uint same
    | array | fixedArray | tuple => cases plain
    | _ => simp [spelling, toString] at same
  | int bits =>
    cases other with
    | int others => exact eq_of_numbers spelling_int same
    | array | fixedArray | tuple => cases plain
    | _ => simp [spelling, toString] at same
  | fixedBytes width =>
    cases other with
    | fixedBytes others => exact eq_of_numbers spelling_fixedBytes same
    | array | fixedArray | tuple => cases plain
    | _ => simp [spelling, toString] at same
  | address | bool | bytes | string =>
    cases other with
    | array | fixedArray | tuple => cases plain
    | _ => simp [spelling, toString] at same ⊢

private theorem eq_of_map_spelling {members others : List AbiType}
    (each : ∀ member ∈ members, ∀ other, member.spelling = other.spelling → member = other)
    (same : members.map spelling = others.map spelling) : members = others := by
  induction members generalizing others with
  | nil => exact (List.map_eq_nil_iff.mp same.symm).symm
  | cons member members ih =>
    obtain ⟨first, rest, rfl, own, following⟩ := List.map_eq_cons_iff.mp same.symm
    rw [List.forall_mem_cons] at each
    rw [each.1 first own.symm, ih each.2 following.symm]

private theorem parts_of_spelling {type other : AbiType} (same : type.spelling = other.spelling) :
    type.parts = other.parts := by
  rw [← cut_spelling, same, cut_spelling]

theorem spelling_injective {type other : AbiType} (same : type.spelling = other.spelling) : type = other := by
  have parts := parts_of_spelling same
  induction type using by_parts generalizing other with
  | array element ih =>
    cases other with
    | array inner =>
      obtain ⟨inside, -⟩ := Cut.suffixed.inj parts
      rw [ih inside (parts_of_spelling inside)]
    | fixedArray inner size =>
      obtain ⟨-, none⟩ := Cut.suffixed.inj parts
      exact absurd none.symm (toString_ne_nil size)
    | _ => cases parts
  | fixedArray element size ih =>
    cases other with
    | array inner =>
      obtain ⟨-, none⟩ := Cut.suffixed.inj parts
      exact absurd none (toString_ne_nil size)
    | fixedArray inner count =>
      obtain ⟨inside, digits⟩ := Cut.suffixed.inj parts
      rw [ih inside (parts_of_spelling inside), toString_injective digits]
    | _ => cases parts
  | tuple members ih =>
    cases other with
    | tuple others =>
      have each (member : AbiType) (found : member ∈ members) (other : AbiType)
          (own : member.spelling = other.spelling) : member = other := ih member found own (parts_of_spelling own)
      rw [eq_of_map_spelling each (Cut.tuple.inj parts)]
    | _ => cases parts
  | _ => exact eq_of_plain rfl parts.symm same

end AbiType

namespace Function
open AbiType

private theorem toList_signature (function : Function) :
    function.signature.toList = function.name.toList ++ (tuple function.inputTypes).spelling := by
  rw [signature, signatureOf, String.toList_append, spelling]

/-- Without a parenthesis in the name, the first of the signature is the one that opens the types. -/
private theorem name_of_signature {function : Function} (bare : '(' ∉ function.name.toList) :
    function.signature.toList.takeWhile (· ≠ '(') = function.name.toList := by
  have passed : ∀ c ∈ function.name.toList, decide (c ≠ '(') = true :=
    fun c member => decide_eq_true fun same => bare (same ▸ member)
  rw [toList_signature, spelling_tuple, List.takeWhile_append_of_pos passed, List.cons_append,
    List.takeWhile_cons_of_neg (by simp), List.append_nil]

/-- Two functions whose names hold no parenthesis have one signature exactly when they have one name and the same types
of inputs, place by place; whatever else they have, the names of the inputs and the outputs, plays no part. Types are
told apart by their spelling alone, even those that no text is read as. -/
theorem signatures_identify :
    (∀ function other : Function, '(' ∉ function.name.toList → '(' ∉ other.name.toList →
        (function.signature = other.signature ↔
          function.name = other.name ∧ function.inputs.map (·.type) = other.inputs.map (·.type))) ∧
      ∀ type other : AbiType, type.toString = other.toString → type = other := by
  refine ⟨fun function other bare plain => ⟨fun same => ?_, ?_⟩, fun type other same => ?_⟩
  · have names : function.name.toList = other.name.toList := by
      rw [← name_of_signature bare, same, name_of_signature plain]
    have whole := congrArg String.toList same
    rw [toList_signature, toList_signature, names, List.append_cancel_left_eq] at whole
    exact ⟨String.toList_inj.mp names, tuple.inj (spelling_injective whole)⟩
  · rintro ⟨names, types⟩
    rw [signature, signature, inputTypes, inputTypes, names, types]
  · exact spelling_injective (congrArg String.toList same)

/-- Parentheses in the types keep lists apart that hold the same types in the same order. -/
theorem signatures_identify_nested :
    let unit : AbiType := .fixedArray (.tuple []) 0
    let paired : Function := ⟨"pay", [⟨"to", .tuple [.address, unit]⟩], []⟩
    let renamed : Function := ⟨"pay", [⟨"receiver", .tuple [.address, unit]⟩], [⟨"done", .bool⟩]⟩
    let apart : Function := ⟨"pay", [⟨"to", .tuple [.address]⟩, ⟨"none", unit⟩], []⟩
    '(' ∉ "pay".toList ∧ paired.signature = renamed.signature ∧ paired.signature ≠ apart.signature := by
  intro unit paired renamed apart
  have bare : '(' ∉ "pay".toList := by decide
  have identify := signatures_identify.1
  refine ⟨bare, (identify paired renamed bare bare).mpr ⟨rfl, rfl⟩, fun same => ?_⟩
  obtain ⟨-, types⟩ := (identify paired apart bare bare).mp same
  cases types

end Function

end ChainScript
