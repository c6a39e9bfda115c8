import ChainScript.Contract.Description
import ChainScript.Proofs.TypeSpelling

/-! The types of described parameters. A tuple is put together as text from the spellings of its components and read
again, with the suffixes behind it; as every spelling is read as its own type and no further, the tree of components
comes back as the tree of types. -/

namespace ChainScript

namespace AbiType
open Text

/-- Array suffixes, and what they make of the type before them, one after another from the left. -/
inductive Suffixes : List Char → (AbiType → AbiType) → Prop where
  | none : Suffixes [] id
  | array {front : List Char} {wrap : AbiType → AbiType} (before : Suffixes front wrap) :
      Suffixes (front ++ "[]".toList) fun type => .array (wrap type)
  | fixedArray {front digits : List Char} {wrap : AbiType → AbiType} {size : Nat} (before : Suffixes front wrap)
      (numeral : Numeral digits size) :
      Suffixes (front ++ '[' :: digits ++ [']']) fun type => .fixedArray (wrap type) size

theorem Suffixes.shown {text : List Char} {wrap : AbiType → AbiType} (suffixes : Suffixes text wrap) : Shown text := by
  induction suffixes with
  | none => exact List.forall_mem_nil _
  | array before ih => exact ih.append (by decide)
  | fixedArray before numeral ih =>
    exact (ih.append (List.forall_mem_cons.mpr ⟨by decide, shown_of_numeral numeral⟩)).append (by decide)

/-- Suffixes behind the text of a type make a text of the type that they make. -/
theorem Suffixes.spells {front text : List Char} {wrap : AbiType → AbiType} {type : AbiType}
    (suffixes : Suffixes text wrap) (dark : Shown front) (own : Spells front type) :
    Spells (front ++ text) (wrap type) := by
  -- Neither has blanks in it, so trimming leaves the last suffix at the end, where it is cut off first.
  induction suffixes with
  | none =>
    rw [List.append_nil]
    exact own
  | @array text wrap before ih =>
    refine .array ih ?_
    rw [(dark.append before.array.shown).trim_eq, List.append_assoc]
  | @fixedArray text digits wrap size before numeral ih =>
    refine .fixedArray ih numeral ?_
    rw [(dark.append (before.fixedArray numeral).shown).trim_eq]
    simp only [List.append_assoc]

end AbiType

namespace ParameterDescription
open AbiType Text

mutual
/-- The type that a tree of components is meant to have. A type that is no tuple is read as it is, whatever components
stand with it; the suffixes of a tuple apply to the tuple of the types of its components. -/
inductive Means : ParameterDescription → AbiType → Prop where
  | plain {name kind : String} {components : List ParameterDescription} {type : AbiType}
      (other : ∀ suffix, kind.toList ≠ "tuple".toList ++ suffix) (read : ofString kind = .ok type) :
      Means (mk name kind components) type
  | tuple {name kind : String} {components : List ParameterDescription} {suffix : List Char}
      {wrap : AbiType → AbiType} {members : List AbiType} {type : AbiType}
      (followed : kind.toList = "tuple".toList ++ suffix) (suffixes : Suffixes suffix wrap)
      (each : MeansAll components members) (made : wrap (.tuple members) = type) : Means (mk name kind components) type

inductive MeansAll : List ParameterDescription → List AbiType → Prop where
  | nil : MeansAll [] []
  | cons {description : ParameterDescription} {rest : List ParameterDescription} {type : AbiType}
      {types : List AbiType} (first : Means description type) (others : MeansAll rest types) :
      MeansAll (description :: rest) (type :: types)
end

mutual
/-- Nothing but array suffixes stands behind the word of a tuple, here and in the components of tuples. -/
def Formed : ParameterDescription → Prop
  | mk _ kind components =>
    match afterWord? "tuple" kind.toList with
    | none => True
    | some suffix => (∃ wrap, Suffixes suffix wrap) ∧ FormedAll components

def FormedAll : List ParameterDescription → Prop
  | [] => True
  | description :: rest => description.Formed ∧ FormedAll rest
end

mutual
/-- The types that are no tuples, from the left, as far as only tuples stand around them. -/
def leaves : ParameterDescription → List String
  | mk _ kind components =>
    match afterWord? "tuple" kind.toList with
    | none => [kind]
    | some _ => leavesAll components

def leavesAll : List ParameterDescription → List String
  | [] => []
  | description :: rest => description.leaves ++ leavesAll rest
end

theorem afterTuple_eq_none {kind : String} (other : ∀ suffix, kind.toList ≠ "tuple".toList ++ suffix) :
    afterWord? "tuple" kind.toList = none :=
  Option.eq_none_iff_forall_ne_some.mpr fun suffix found => other suffix (afterWord?_eq_some_iff.mp found)

theorem ofString_suffixed {members : List AbiType} {suffix : List Char} {wrap : AbiType → AbiType}
    (measured : EveryAll Measured members) (suffixes : Suffixes suffix wrap) :
    ofString ((AbiType.tuple members).toString ++ String.ofList suffix) = .ok (wrap (.tuple members)) ∧
      Every Measured (wrap (.tuple members)) := by
  have own : Spells (AbiType.tuple members).spelling (.tuple members) := spells_spelling ⟨trivial, measured⟩
  have whole := suffixes.spells (shown_spelling _) own
  refine ⟨?_, whole.measured⟩
  rw [ofString, String.toList_append, String.toList_ofList]
  exact ofChars_of_spells whole

mutual
theorem type_of_means {description : ParameterDescription} {type : AbiType} :
    description.Means type → description.type = .ok type ∧ Every Measured type
  | .plain other read => by
    rw [ParameterDescription.type, afterTuple_eq_none other]
    exact ⟨read, (spells_of_ofChars read).measured⟩
  | .tuple followed suffixes each made => by
    obtain ⟨read, measured⟩ := types_of_means each
    rw [ParameterDescription.type, afterWord?_eq_some_iff.mpr followed, ← made]
    dsimp only
    rw [read, ok_bind]
    exact ofString_suffixed measured suffixes

theorem types_of_means {descriptions : List ParameterDescription} {members : List AbiType} :
    MeansAll descriptions members → types descriptions = .ok members ∧ EveryAll Measured members
  | .nil => ⟨rfl, trivial⟩
  | .cons first others => by
    obtain ⟨own, measured⟩ := type_of_means first
    obtain ⟨read, kept⟩ := types_of_means others
    rw [types, own, ok_bind, read, ok_bind]
    exact ⟨rfl, measured, kept⟩
end

mutual
/-- Either all leaves are read and the tree has a meaning, or it fails like the list of its leaves. -/
theorem means_or_unread (description : ParameterDescription) (formed : description.Formed) :
    (∃ type, description.Means type) ∧ (∃ types, description.leaves.mapM ofString = .ok types) ∨
      ∃ fault, description.type = .error fault ∧ description.leaves.mapM ofString = .error fault := by
  obtain ⟨name, kind, components⟩ := description
  cases word : afterWord? "tuple" kind.toList with
  | none =>
    have other : ∀ suffix, kind.toList ≠ "tuple".toList ++ suffix := by
      intro suffix found
      rw [afterWord?_eq_some_iff.mpr found] at word
      cases word
    simp only [leaves, ParameterDescription.type, word, List.mapM_cons]
    cases read : ofString kind with
    | ok type => exact .inl ⟨⟨type, .plain other read⟩, [type], rfl⟩
    | error fault => exact .inr ⟨fault, rfl, rfl⟩
  | some suffix =>
    rw [Formed, word] at formed
    obtain ⟨⟨wrap, suffixes⟩, inner⟩ := formed
    simp only [leaves, ParameterDescription.type, word]
    rcases meansAll_or_unread components inner with ⟨⟨members, each⟩, read⟩ | ⟨fault, failed, unread⟩
    · exact .inl ⟨⟨_, .tuple (afterWord?_eq_some_iff.mp word) suffixes each rfl⟩, read⟩
    · refine .inr ⟨fault, ?_, unread⟩
      rw [failed, error_bind]
termination_by structural description

theorem meansAll_or_unread (descriptions : List ParameterDescription) (formed : FormedAll descriptions) :
    (∃ members, MeansAll descriptions members) ∧ (∃ types, (leavesAll descriptions).mapM ofString = .ok types) ∨
      ∃ fault, types descriptions = .error fault ∧ (leavesAll descriptions).mapM ofString = .error fault := by
  cases descriptions with
  | nil => exact .inl ⟨⟨[], .nil⟩, [], rfl⟩
  | cons description rest =>
    obtain ⟨own, others⟩ := formed
    rw [leavesAll, List.mapM_append, types]
    rcases means_or_unread description own with ⟨⟨type, first⟩, values, read⟩ | ⟨fault, failed, unread⟩
    · rw [(type_of_means first).1, read, ok_bind, ok_bind]
      rcases meansAll_or_unread rest others with ⟨⟨members, each⟩, more, following⟩ | ⟨fault, failed, unread⟩
      · rw [following]
        exact .inl ⟨⟨type :: members, .cons first each⟩, values ++ more, rfl⟩
      · rw [failed, unread]
        exact .inr ⟨fault, rfl, rfl⟩
    · rw [failed, unread]
      exact .inr ⟨fault, rfl, rfl⟩
termination_by structural descriptions
end

/-- A tree of components whose tuples have nothing but array suffixes behind them is read as the type it is meant to have,
if all its leaves can be read; else it fails as the first of them from the left does that cannot. -/
theorem type_of_formed {description : ParameterDescription} (formed : description.Formed) :
    ((∀ kind ∈ description.leaves, ∃ type, ofString kind = .ok type) →
        ∃ type, description.Means type ∧ description.type = .ok type) ∧
      (∀ type, description.type = .ok type ↔ description.Means type) ∧
      ∀ fault, description.type = .error fault ↔
        ∃ before kind after, description.leaves = before ++ kind :: after ∧
          (∀ other ∈ before, ∃ type, ofString other = .ok type) ∧ ofString kind = .error fault := by
  simp only [← mapM_eq_error_iff]
  rcases means_or_unread description formed with ⟨⟨type, means⟩, types, read⟩ | ⟨fault, failed, unread⟩
  · have own := (type_of_means means).1
    refine ⟨fun _ => ⟨type, means, own⟩, fun other => ⟨fun same => ?_, fun meant => (type_of_means meant).1⟩,
      fun fault => ?_⟩
    · cases own.symm.trans same
      exact means
    · rw [own, read]
      simp
  · refine ⟨fun all => ?_, fun other => ⟨fun same => ?_, fun meant => (type_of_means meant).1⟩, fun other => ?_⟩
    · obtain ⟨kind, member, fails⟩ := exists_of_mapM_eq_error unread
      obtain ⟨type, read⟩ := all kind member
      cases read.symm.trans fails
    · cases failed.symm.trans same
    · rw [failed, unread]
      simp

/-- A list of pairs of a number and a tuple. With types that cannot be read, the inner one fails it before the one behind
it; components beside a type that is no tuple are not looked at. -/
theorem type_of_formed_nested :
    let leaf (kind : String) : ParameterDescription := mk "" kind []
    let pair : AbiType := .tuple [.uint 256, .tuple [.bool]]
    (mk "" "tuple[2][]" [leaf "uint", mk "" "tuple" [leaf "bool"]]).type = .ok (.array (.fixedArray pair 2)) ∧
      (mk "" "tuple" [mk "" "bool" [leaf "set"], mk "" "tuple[]" [leaf "map"], leaf "fixed"]).type =
        .error (.unknownType "map") := by
  intro leaf pair
  have two : Numeral ['2'] 2 := size?_eq_some_iff.mp (by decide)
  have lists : Suffixes "[2][]".toList fun type => .array (.fixedArray type 2) := .array (.fixedArray .none two)
  have uint : ofString "uint" = .ok (.uint 256) := ofChars_of_spells (.plain (ofPlain?_eq_some_iff.mp (by decide)))
  have bool : ofString "bool" = .ok .bool := ofChars_of_spells (.plain (ofPlain?_eq_some_iff.mp (by decide)))
  constructor
  · have formed : (mk "" "tuple[2][]" [leaf "uint", mk "" "tuple" [leaf "bool"]]).Formed :=
      ⟨⟨_, lists⟩, trivial, ⟨⟨_, .none⟩, trivial, trivial⟩, trivial⟩
    have inner : (mk "" "tuple" [leaf "bool"]).Means (.tuple [.bool]) :=
      .tuple rfl .none (.cons (.plain (by simp) bool) .nil) rfl
    have each : MeansAll [leaf "uint", mk "" "tuple" [leaf "bool"]] [.uint 256, .tuple [.bool]] :=
      .cons (.plain (by simp) uint) (.cons inner .nil)
    exact ((type_of_formed formed).2.1 _).mpr (.tuple rfl lists each rfl)
  · have formed : (mk "" "tuple" [mk "" "bool" [leaf "set"], mk "" "tuple[]" [leaf "map"], leaf "fixed"]).Formed :=
      ⟨⟨_, .none⟩, trivial, ⟨⟨_, .array .none⟩, trivial, trivial⟩, trivial, trivial⟩
    have map : ofString "map" = .error (.unknownType "map") := by decide +kernel
    exact ((type_of_formed formed).2.2 _).mpr
      ⟨["bool"], "map", ["fixed"], rfl, List.forall_mem_singleton.mpr ⟨_, bool⟩, map⟩

end ParameterDescription

end ChainScript
