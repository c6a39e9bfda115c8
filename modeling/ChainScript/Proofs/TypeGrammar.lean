import ChainScript.Proofs.ExceptSteps
import ChainScript.Proofs.TypeNames

/-! The grammar of types. Reading a text gives a type exactly when the text spells it. That what is read is spelled
follows the recursion on shorter texts; the converse follows the spelling, where a tuple is cut into its members again
because the text of a type can always be a member. -/

namespace ChainScript.AbiType
open Text

/-- The texts of a type: the blanks around a text are passed over, and each part of it spells a type itself. -/
inductive Spells : List Char → AbiType → Prop where
  | plain {text : List Char} {type : AbiType} (name : Names (trim text) type) : Spells text type
  | array {text element : List Char} {type : AbiType} (each : Spells element type)
      (made : trim text = element ++ "[]".toList) : Spells text (.array type)
  | fixedArray {text element size : List Char} {type : AbiType} {count : Nat} (each : Spells element type)
      (numeral : Numeral size count) (made : trim text = element ++ '[' :: size ++ [']']) :
      Spells text (.fixedArray type count)
  | unit {text blanks : List Char} (blank : Blank blanks) (made : trim text = '(' :: blanks ++ [')']) :
      Spells text (.tuple [])
  | tuple {text : List Char} {members : List (List Char × AbiType)} (some : members ≠ [])
      (each : ∀ member ∈ members, Spells member.1 member.2)
      (made : trim text = '(' :: joined (members.map Prod.fst) ++ [')']) :
      Spells text (.tuple (members.map Prod.snd))

/-- The failure of a text that is no type itself. -/
def unknown (text : List Char) : AbiError :=
  .unknownType (String.ofList (trim text))

theorem ofChars_eq (text : List Char) : ofChars text =
    match cut (trim text) with
    | .suffixed element size => do
      let type ← ofChars element
      if size.isEmpty then .ok (.array type)
      else (size? size).elim (.error (unknown text)) fun count => .ok (.fixedArray type count)
    | .unopened => .error (unknown text)
    | .tuple members => do
      let types ← members.mapM ofChars
      .ok (.tuple types)
    | .plain => (ofPlain? (trim text)).elim (.error (unknown text)) .ok := by
  rw [ofChars]
  split
  next element size made =>
    simp only [made]
    refine bind_congr fun type => ?_
    cases size? size <;> rfl
  next made =>
    simp only [made]
    rfl
  next members made =>
    have same : (members.attach.mapM fun entry => ofChars entry.1) = members.mapM ofChars := by
      rw [List.mapM_subtype (fun _ _ => rfl), List.unattach_attach]
    simp only [made]
    exact congrArg (· >>= fun types => pure (tuple types)) same
  next made =>
    simp only [made]
    cases ofPlain? (trim text) <;> rfl

theorem spells_of_ofChars {text : List Char} {type : AbiType} (read : ofChars text = .ok type) :
    Spells text type := by
  have trimmed := length_trim_le text
  rw [ofChars_eq] at read
  split at read
  next element size made =>
    obtain ⟨whole, -⟩ := cut_eq_suffixed_iff.mp made
    obtain ⟨inner, first, rest⟩ := bind_eq_ok.mp read
    have shorter := length_lt_of_cut_suffixed made
    have each := spells_of_ofChars first
    split at rest
    next empty =>
      cases rest
      rw [List.isEmpty_iff.mp empty, List.append_assoc] at whole
      exact .array each whole
    next =>
      cases sized : size? size with
      | some count =>
        rw [sized] at rest
        cases rest
        exact .fixedArray each (size?_eq_some_iff.mp sized) whole
      | none =>
        rw [sized] at rest
        cases rest
  next => cases read
  next members made =>
    obtain ⟨types, all, rest⟩ := bind_eq_ok.mp read
    cases rest
    obtain ⟨pairs, rfl, rfl, each⟩ := mapM_eq_ok_iff.mp all
    have spelled : ∀ pair ∈ pairs, Spells pair.1 pair.2 := by
      intro pair member
      have shorter := length_lt_of_cut_tuple made (List.mem_map_of_mem member)
      exact spells_of_ofChars (each pair member)
    obtain ⟨inside, whole, ⟨blank, none⟩ | ⟨-, split⟩⟩ := cut_eq_tuple_iff.mp made
    · rw [List.map_eq_nil_iff.mp none]
      exact .unit blank whole
    · have some : pairs ≠ [] := fun none => splitMembers_ne_nil 0 inside (split ▸ none ▸ rfl)
      rw [← joined_splitMembers 0 inside, ← split] at whole
      exact .tuple some spelled whole
  next =>
    cases named : ofPlain? (trim text) with
    | some plain =>
      rw [named] at read
      cases read
      exact .plain (ofPlain?_eq_some_iff.mp named)
    | none =>
      rw [named] at read
      cases read
termination_by text.length
decreasing_by all_goals omega

private theorem unmarked_of_numeral {size : List Char} {count : Nat} (numeral : Numeral size count) : Unmarked size :=
  .of_not_mem (numeral.not_mem (by decide)) (numeral.not_mem (by decide)) (numeral.not_mem (by decide))

theorem unmarked_brackets {size : List Char} (inside : Unmarked size) : Unmarked ('[' :: size ++ [']']) := by
  intro c member
  rcases List.mem_append.mp member with front | last
  · rcases List.mem_cons.mp front with rfl | digit
    · decide
    · exact inside c digit
  · rw [List.mem_singleton.mp last]
    decide

theorem not_blank_brackets (size : List Char) : ¬Blank ('[' :: size ++ [']']) :=
  fun blank => blank.not_mem (by decide) List.mem_cons_self

/-- A text of a type can be a member of a tuple. -/
theorem Spells.member {text : List Char} {type : AbiType} (spells : Spells text type) : Member text := by
  induction spells with
  | plain name => exact .of_trim (.of_unmarked name.unmarked name.not_blank)
  | array each made ih =>
    refine .of_trim ?_
    rw [made]
    exact ih.append (unmarked_brackets (List.forall_mem_nil _)) (not_blank_brackets [])
  | fixedArray each numeral made ih =>
    refine .of_trim ?_
    rw [made, List.append_assoc]
    exact ih.append (unmarked_brackets (unmarked_of_numeral numeral)) (not_blank_brackets _)
  | unit blank made =>
    refine .of_trim ?_
    rw [made]
    exact .unit blank
  | tuple some each made ih =>
    refine .of_trim ?_
    rw [made]
    refine .parenthesized (fun none => some (List.map_eq_nil_iff.mp none)) fun member inside => ?_
    obtain ⟨pair, found, rfl⟩ := List.mem_map.mp inside
    exact ih pair found

/-- A tuple is cut into the members that it was made of. -/
theorem cut_members {members : List (List Char)} (some : members ≠ []) (each : ∀ member ∈ members, Member member) :
    cut ('(' :: joined members ++ [')']) = .tuple members := by
  -- Blanks alone would be read as a tuple without members.
  have dark : ¬Blank (joined members) := by
    intro blank
    obtain ⟨member, inside⟩ := List.exists_mem_of_ne_nil _ some
    exact (each member inside).occupied.not_blank fun c found => blank c ((infix_of_mem inside).subset found)
  have split := splitMembers_joined some fun member inside => (each member inside).sealed
  exact cut_eq_tuple_iff.mpr ⟨_, rfl, .inr ⟨dark, split.symm⟩⟩

theorem cut_array (element : List Char) : cut (element ++ "[]".toList) = .suffixed element [] := by
  refine cut_eq_suffixed_iff.mpr ⟨?_, List.not_mem_nil⟩
  rw [List.append_assoc]
  rfl

theorem ofChars_of_spells {text : List Char} {type : AbiType} (spells : Spells text type) :
    ofChars text = .ok type := by
  induction spells with
  | plain name =>
    rw [ofChars_eq, name.cut_eq]
    dsimp only
    rw [ofPlain?_eq_some_iff.mpr name]
    rfl
  | @array text element type each made ih =>
    have parts : cut (trim text) = .suffixed element [] := made ▸ cut_array element
    rw [ofChars_eq, parts]
    dsimp only
    rw [ih]
    rfl
  | @fixedArray text element size type count each numeral made ih =>
    have parts : cut (trim text) = .suffixed element size :=
      cut_eq_suffixed_iff.mpr ⟨made, numeral.not_mem (by decide)⟩
    have some : ¬size.isEmpty = true := fun none => numeral.ne_nil (List.isEmpty_iff.mp none)
    rw [ofChars_eq, parts]
    dsimp only
    rw [ih, ok_bind, if_neg some, size?_eq_some_iff.mpr numeral]
    rfl
  | @unit text blanks blank made =>
    have parts : cut (trim text) = .tuple [] := cut_eq_tuple_iff.mpr ⟨blanks, made, .inl ⟨blank, rfl⟩⟩
    rw [ofChars_eq, parts]
    rfl
  | @tuple text members some each made ih =>
    have own : ∀ member ∈ members.map Prod.fst, Member member := by
      intro member inside
      obtain ⟨pair, found, rfl⟩ := List.mem_map.mp inside
      exact (each pair found).member
    have kept : members.map Prod.fst ≠ [] := fun none => some (List.map_eq_nil_iff.mp none)
    have parts : cut (trim text) = .tuple (members.map Prod.fst) := made ▸ cut_members kept own
    rw [ofChars_eq, parts]
    dsimp only
    rw [mapM_eq_ok_iff.mpr ⟨members, rfl, rfl, ih⟩]
    rfl

/-- A failure names a part of the text without the blanks around it. -/
theorem ofChars_eq_error {text : List Char} {fault : AbiError} (failed : ofChars text = .error fault) :
    ∃ part : String, fault = .unknownType part ∧ part.toList <:+: text ∧ trim part.toList = part.toList := by
  have trimmed := length_trim_le text
  have inside := trim_infix text
  have own : ∃ part : String, unknown text = .unknownType part ∧ part.toList <:+: text ∧
      trim part.toList = part.toList := by
    refine ⟨String.ofList (trim text), rfl, ?_, ?_⟩
    · rw [String.toList_ofList]
      exact inside
    · rw [String.toList_ofList]
      exact trim_trim text
  rw [ofChars_eq] at failed
  split at failed
  next element size made =>
    have shorter := length_lt_of_cut_suffixed made
    rcases bind_eq_error.mp failed with first | ⟨type, -, rest⟩
    · obtain ⟨part, named, within, bare⟩ := ofChars_eq_error first
      exact ⟨part, named, within.trans ((infix_of_cut_suffixed made).trans inside), bare⟩
    · split at rest
      · cases rest
      · cases sized : size? size with
        | some count =>
          rw [sized] at rest
          cases rest
        | none =>
          rw [sized] at rest
          cases rest
          exact own
  next =>
    cases failed
    exact own
  next members made =>
    rcases bind_eq_error.mp failed with all | ⟨types, -, rest⟩
    · obtain ⟨member, found, fails⟩ := exists_of_mapM_eq_error all
      have shorter := length_lt_of_cut_tuple made found
      obtain ⟨part, named, within, bare⟩ := ofChars_eq_error fails
      exact ⟨part, named, within.trans ((infix_of_cut_tuple made found).trans inside), bare⟩
    · cases rest
  next =>
    cases named : ofPlain? (trim text) with
    | some plain =>
      rw [named] at failed
      cases failed
    | none =>
      rw [named] at failed
      cases failed
      exact own
termination_by text.length
decreasing_by all_goals omega

/-- A text is read as a type exactly when it spells it, and it spells one type at most; a text that spells none fails,
and the failure names a part of it without the blanks around that part. The text of a type has matching parentheses and
no empty member. -/
theorem ofString_grammar (text : String) :
    (∀ type, ofString text = .ok type ↔ Spells text.toList type) ∧
      (∀ type other, Spells text.toList type → Spells text.toList other → type = other) ∧
      ((∀ type, ¬Spells text.toList type) → ∃ part : String, ofString text = .error (.unknownType part) ∧
        part.toList <:+: text.toList ∧ trim part.toList = part.toList) ∧
      ∀ type, Spells text.toList type → Balanced text.toList ∧ ¬EmptyMember text.toList := by
  have reads : ∀ type, ofString text = .ok type ↔ Spells text.toList type :=
    fun type => ⟨spells_of_ofChars, ofChars_of_spells⟩
  refine ⟨reads, ?_, ?_, ?_⟩
  · intro type other first second
    exact Except.ok.inj (((reads type).mpr first).symm.trans ((reads other).mpr second))
  · intro foreign
    cases read : ofString text with
    | ok type => exact absurd ((reads type).mp read) (foreign type)
    | error fault =>
      obtain ⟨part, rfl, within, bare⟩ := ofChars_eq_error read
      exact ⟨part, rfl, within, bare⟩
  · intro type spells
    exact ⟨spells.member.sealed.balanced, spells.member.occupied.no_emptyMember⟩

theorem ofString_grammar_nested :
    let pair : AbiType := .tuple [.bool, .fixedBytes 4]
    ofString "( uint8 ,(bool,bytes4)[+2])" = .ok (.tuple [.uint 8, .fixedArray pair 2]) ∧
      Balanced "( uint8 ,(bool,bytes4)[+2])".toList ∧
      ∃ part : String, ofString "(uint8,)" = .error (.unknownType part) ∧
        part.toList <:+: "(uint8,)".toList ∧ trim part.toList = part.toList := by
  intro pair
  have width : Spells " uint8 ".toList (.uint 8) := .plain (ofPlain?_eq_some_iff.mp (by decide))
  have bool : Spells "bool".toList .bool := .plain (ofPlain?_eq_some_iff.mp (by decide))
  have four : Spells "bytes4".toList (.fixedBytes 4) := .plain (ofPlain?_eq_some_iff.mp (by decide))
  have inner : Spells "(bool,bytes4)".toList pair :=
    @Spells.tuple _ [("bool".toList, .bool), ("bytes4".toList, .fixedBytes 4)] (List.cons_ne_nil _ _)
      (List.forall_mem_cons.mpr ⟨bool, List.forall_mem_singleton.mpr four⟩) (by decide)
  have two : Spells "(bool,bytes4)[+2]".toList (.fixedArray pair 2) :=
    .fixedArray inner (size?_eq_some_iff.mp (by decide : size? "+2".toList = some 2)) (by decide)
  have whole : Spells "( uint8 ,(bool,bytes4)[+2])".toList (.tuple [.uint 8, .fixedArray pair 2]) :=
    @Spells.tuple _ [(" uint8 ".toList, .uint 8), ("(bool,bytes4)[+2]".toList, .fixedArray pair 2)]
      (List.cons_ne_nil _ _) (List.forall_mem_cons.mpr ⟨width, List.forall_mem_singleton.mpr two⟩) (by decide)
  have empty : EmptyMember "(uint8,)".toList :=
    ⟨"(uint8".toList, ',', [], ')', [], by decide, List.forall_mem_nil _, .inr (.inr ⟨rfl, rfl⟩)⟩
  obtain ⟨reads, -, -, shape⟩ := ofString_grammar "( uint8 ,(bool,bytes4)[+2])"
  obtain ⟨-, -, fails, barred⟩ := ofString_grammar "(uint8,)"
  exact ⟨(reads _).mpr whole, (shape _ whole).1, fails fun type spells => (barred type spells).2 empty⟩

end ChainScript.AbiType
