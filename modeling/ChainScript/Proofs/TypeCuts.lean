import ChainScript.Abi.TypeText
import ChainScript.Proofs.Trimming

/-! Where the text of a type is cut. The parts that a cut gives make up the text again. The members of a tuple need
more: they are found again where each of them closes the parentheses it opens and no others, and has no comma outside
of them. -/

namespace ChainScript.AbiType
open Text

theorem splitLastBracket?_eq_some_iff {text element size : List Char} :
    splitLastBracket? text = some (element, size) ↔ text = element ++ '[' :: size ∧ '[' ∉ size := by
  constructor
  · intro found
    unfold splitLastBracket? at found
    split at found
    · cases found
    next bracket front dropped =>
      simp only [Option.some.injEq, Prod.mk.injEq] at found
      obtain ⟨rfl, rfl⟩ := found
      have inside : 0 < (text.reverse.dropWhile (· ≠ '[')).length := by rw [dropped]; exact Nat.succ_pos _
      have stopped := List.dropWhile_get_zero_not (· ≠ '[') text.reverse inside
      simp only [dropped, List.get_eq_getElem, List.getElem_cons_zero, decide_eq_true_eq, ne_eq, not_not] at stopped
      have whole := List.takeWhile_append_dropWhile (p := (· ≠ '[')) (l := text.reverse)
      rw [dropped, stopped] at whole
      constructor
      · have turned := congrArg List.reverse whole
        rw [List.reverse_append, List.reverse_cons, List.reverse_reverse, List.append_assoc] at turned
        exact turned.symm
      · intro member
        have other := List.mem_takeWhile_imp (List.mem_reverse.mp member)
        simp at other
  · rintro ⟨rfl, absent⟩
    have passed : ∀ c ∈ size.reverse, decide (c ≠ '[') = true := by
      intro c member
      refine decide_eq_true fun same => absent ?_
      exact same ▸ List.mem_reverse.mp member
    have turned : (element ++ '[' :: size).reverse = size.reverse ++ '[' :: element.reverse := by simp
    unfold splitLastBracket?
    rw [turned, List.dropWhile_append_of_pos passed, List.takeWhile_append_of_pos passed]
    simp

theorem cut_eq_suffixed_iff {text element size : List Char} :
    cut text = .suffixed element size ↔ text = element ++ '[' :: size ++ [']'] ∧ '[' ∉ size := by
  constructor
  · intro made
    unfold cut at made
    split at made
    next closed =>
      obtain ⟨front, rfl⟩ := List.getLast?_eq_some_iff.mp closed
      rw [List.dropLast_concat] at made
      split at made
      next found =>
        cases made
        obtain ⟨rfl, absent⟩ := splitLastBracket?_eq_some_iff.mp found
        exact ⟨rfl, absent⟩
      next => cases made
    next =>
      split at made
      · split at made
        · split at made <;> cases made
        · cases made
      · cases made
  · rintro ⟨rfl, absent⟩
    have found : splitLastBracket? (element ++ '[' :: size) = some (element, size) :=
      splitLastBracket?_eq_some_iff.mpr ⟨rfl, absent⟩
    unfold cut
    rw [if_pos List.getLast?_concat, List.dropLast_concat, found]

theorem cut_parenthesized (inside : List Char) :
    cut ('(' :: inside ++ [')']) =
      if (trim inside).isEmpty then .tuple [] else .tuple (splitMembers 0 inside) := by
  have unbracketed : ('(' :: inside ++ [')']).getLast? ≠ some ']' := by
    rw [List.getLast?_concat]
    decide
  unfold cut
  rw [if_neg unbracketed, List.cons_append]
  split
  next tail same =>
    cases same
    rw [if_pos List.getLast?_concat, List.dropLast_concat]
  next other => exact absurd rfl (other _)

private theorem cut_parenthesized_eq_tuple_iff {inside : List Char} {members : List (List Char)} :
    cut ('(' :: inside ++ [')']) = .tuple members ↔
      Blank inside ∧ members = [] ∨ ¬Blank inside ∧ members = splitMembers 0 inside := by
  rw [cut_parenthesized]
  by_cases blank : Blank inside
  · rw [if_pos (List.isEmpty_iff.mpr (trim_eq_nil_iff.mpr blank)), Cut.tuple.injEq]
    constructor
    · intro none
      exact .inl ⟨blank, none.symm⟩
    · rintro (⟨-, rfl⟩ | ⟨dark, -⟩)
      · rfl
      · exact absurd blank dark
  · rw [if_neg fun none => blank (trim_eq_nil_iff.mp (List.isEmpty_iff.mp none)), Cut.tuple.injEq]
    constructor
    · intro split
      exact .inr ⟨blank, split.symm⟩
    · rintro (⟨empty, -⟩ | ⟨-, rfl⟩)
      · exact absurd empty blank
      · rfl

theorem cut_eq_tuple_iff {text : List Char} {members : List (List Char)} :
    cut text = .tuple members ↔
      ∃ inside, text = '(' :: inside ++ [')'] ∧
        (Blank inside ∧ members = [] ∨ ¬Blank inside ∧ members = splitMembers 0 inside) := by
  constructor
  · intro made
    suffices wrapped : ∃ inside, text = '(' :: inside ++ [')'] by
      obtain ⟨inside, rfl⟩ := wrapped
      exact ⟨inside, rfl, cut_parenthesized_eq_tuple_iff.mp made⟩
    unfold cut at made
    split at made
    · split at made <;> cases made
    · split at made
      next inside _ =>
        split at made
        next closed =>
          obtain ⟨front, rfl⟩ := List.getLast?_eq_some_iff.mp closed
          exact ⟨front, rfl⟩
        next => cases made
      next => cases made
  · rintro ⟨inside, rfl, made⟩
    exact cut_parenthesized_eq_tuple_iff.mpr made

theorem cut_eq_plain {text : List Char} (unbracketed : text.getLast? ≠ some ']')
    (unopened : text.head? ≠ some '(') : cut text = .plain := by
  unfold cut
  rw [if_neg unbracketed]
  split
  next => exact absurd rfl unopened
  next => rfl

theorem splitMembers_ne_nil (depth : Nat) (text : List Char) : splitMembers depth text ≠ [] := by
  cases text with
  | nil => exact List.cons_ne_nil _ _
  | cons c rest =>
    unfold splitMembers
    split
    · exact List.cons_ne_nil _ _
    · dsimp only
      split
      · exact List.cons_ne_nil _ _
      · exact List.cons_ne_nil _ _

theorem splitMembers_cons {depth : Nat} {c : Char} (rest : List Char) (uncut : ¬(c = ',' ∧ depth = 0)) :
    splitMembers depth (c :: rest) =
      (splitMembers (if c = '(' then depth + 1 else if c = ')' then depth - 1 else depth) rest).modifyHead
        (c :: ·) := by
  rw [splitMembers, if_neg uncut]
  dsimp only
  split
  next none => exact absurd none (splitMembers_ne_nil _ _)
  next member others some => rw [some, List.modifyHead_cons]

/-- Members with commas between them. -/
def joined (members : List (List Char)) : List Char :=
  [','].intercalate members

theorem joined_singleton (member : List Char) : joined [member] = member :=
  List.intercalate_singleton

theorem joined_cons (member : List Char) {others : List (List Char)} (some : others ≠ []) :
    joined (member :: others) = member ++ ',' :: joined others := by
  obtain ⟨next, rest, rfl⟩ := List.exists_cons_of_ne_nil some
  exact (List.intercalate_cons_cons).trans (List.append_assoc _ _ _)

private theorem joined_modifyHead (c : Char) {members : List (List Char)} (some : members ≠ []) :
    joined (members.modifyHead (c :: ·)) = c :: joined members := by
  obtain ⟨member, others, rfl⟩ := List.exists_cons_of_ne_nil some
  rw [List.modifyHead_cons]
  cases others with
  | nil => rw [joined_singleton, joined_singleton]
  | cons next rest =>
    rw [joined_cons _ (List.cons_ne_nil _ _), joined_cons _ (List.cons_ne_nil _ _), List.cons_append]

theorem joined_splitMembers (depth : Nat) (text : List Char) : joined (splitMembers depth text) = text := by
  induction text generalizing depth with
  | nil => exact joined_singleton []
  | cons c rest ih =>
    by_cases cuts : c = ',' ∧ depth = 0
    · rw [splitMembers, if_pos cuts, joined_cons _ (splitMembers_ne_nil _ _), ih, cuts.1, List.nil_append]
    · rw [splitMembers_cons rest cuts, joined_modifyHead c (splitMembers_ne_nil _ _), ih]

theorem infix_of_mem {member : List Char} {members : List (List Char)} (found : member ∈ members) :
    member <:+: joined members := by
  induction members with
  | nil => cases found
  | cons first others ih =>
    cases others with
    | nil =>
      obtain rfl := List.mem_singleton.mp found
      exact ⟨[], [], (List.append_nil _).trans (joined_singleton member).symm⟩
    | cons next rest =>
      rw [joined_cons first (List.cons_ne_nil _ _)]
      rcases List.mem_cons.mp found with rfl | found
      · exact (List.prefix_append _ _).isInfix
      · exact (ih found).trans ((List.suffix_cons _ _).trans (List.suffix_append _ _)).isInfix

theorem infix_of_cut_suffixed {text element size : List Char} (made : cut text = .suffixed element size) :
    element <:+: text := by
  obtain ⟨rfl, -⟩ := cut_eq_suffixed_iff.mp made
  rw [List.append_assoc]
  exact (List.prefix_append _ _).isInfix

theorem infix_of_cut_tuple {text member : List Char} {members : List (List Char)} (made : cut text = .tuple members)
    (found : member ∈ members) : member <:+: text := by
  obtain ⟨inside, rfl, ⟨-, rfl⟩ | ⟨-, rfl⟩⟩ := cut_eq_tuple_iff.mp made
  · cases found
  · have within := infix_of_mem found
    rw [joined_splitMembers] at within
    exact within.trans ⟨['('], [')'], rfl⟩

/-- The number of open parentheses after a character; nothing where a member cannot go on with it, because it closes
none of the member's own parentheses or is a comma outside of them. -/
def nest (depth : Nat) (c : Char) : Option Nat :=
  if c = '(' then some (depth + 1)
  else if c = ')' then (if depth = 0 then none else some (depth - 1))
  else if c = ',' ∧ depth = 0 then none
  else some depth

theorem nest_eq_some_iff {depth next : Nat} {c : Char} :
    nest depth c = some next ↔
      c = '(' ∧ next = depth + 1 ∨ c = ')' ∧ depth = next + 1 ∨
        (c ≠ '(' ∧ c ≠ ')') ∧ ¬(c = ',' ∧ depth = 0) ∧ next = depth := by
  unfold nest
  split
  next opens => simp [opens, eq_comm]
  next unopened =>
    split
    next closes =>
      split
      next none => simp [closes, none]
      next some => simp [closes]; omega
    next unclosed =>
      split
      next cuts => simp [cuts]
      next uncut => simp [unopened, unclosed, uncut, eq_comm]

theorem foldlM_nest_deeper {text : List Char} {depth final : Nat} (nested : text.foldlM nest depth = some final) :
    text.foldlM nest (depth + 1) = some (final + 1) := by
  induction text generalizing depth with
  | nil =>
    cases nested
    rfl
  | cons c rest ih =>
    rw [List.foldlM_cons] at nested ⊢
    obtain ⟨next, first, others⟩ := Option.bind_eq_some_iff.mp nested
    have deeper : nest (depth + 1) c = some (next + 1) := by
      rcases nest_eq_some_iff.mp first with ⟨opens, rfl⟩ | ⟨closes, rfl⟩ | ⟨other, -, rfl⟩
      · exact nest_eq_some_iff.mpr (.inl ⟨opens, rfl⟩)
      · exact nest_eq_some_iff.mpr (.inr (.inl ⟨closes, rfl⟩))
      · exact nest_eq_some_iff.mpr (.inr (.inr ⟨other, fun cuts => Nat.succ_ne_zero _ cuts.2, rfl⟩))
    rw [deeper]
    exact ih others

private theorem splitMembers_cons_of_nest {depth next : Nat} {c : Char} (rest : List Char)
    (nested : nest depth c = some next) :
    splitMembers depth (c :: rest) = (splitMembers next rest).modifyHead (c :: ·) := by
  rcases nest_eq_some_iff.mp nested with ⟨rfl, rfl⟩ | ⟨rfl, rfl⟩ | ⟨⟨unopened, unclosed⟩, uncut, rfl⟩
  · rw [splitMembers_cons rest fun cuts => absurd cuts.1 (by decide), if_pos rfl]
  · rw [splitMembers_cons rest fun cuts => absurd cuts.1 (by decide), if_neg (by decide), if_pos rfl,
      Nat.add_sub_cancel]
  · rw [splitMembers_cons rest uncut, if_neg unopened, if_neg unclosed]

theorem splitMembers_append {text : List Char} {depth final : Nat} (nested : text.foldlM nest depth = some final)
    (rest : List Char) : splitMembers depth (text ++ rest) = (splitMembers final rest).modifyHead (text ++ ·) := by
  induction text generalizing depth with
  | nil =>
    cases nested
    exact (congrFun List.modifyHead_id _).symm
  | cons c text ih =>
    rw [List.foldlM_cons] at nested
    obtain ⟨next, first, others⟩ := Option.bind_eq_some_iff.mp nested
    rw [List.cons_append, splitMembers_cons_of_nest _ first, ih others, List.modifyHead_modifyHead]
    rfl

/-- A text that can be a member: every parenthesis and every comma in it is its own. -/
def Sealed (text : List Char) : Prop :=
  text.foldlM nest 0 = some 0

theorem splitMembers_joined {members : List (List Char)} (some : members ≠ [])
    (each : ∀ member ∈ members, Sealed member) : splitMembers 0 (joined members) = members := by
  induction members with
  | nil => exact absurd rfl some
  | cons member others ih =>
    rw [List.forall_mem_cons] at each
    cases others with
    | nil =>
      have whole := splitMembers_append each.1 []
      rw [List.append_nil] at whole
      rw [joined_singleton, whole, splitMembers, List.modifyHead_cons, List.append_nil]
    | cons next rest =>
      rw [joined_cons member (List.cons_ne_nil _ _), splitMembers_append each.1, splitMembers, if_pos ⟨rfl, rfl⟩,
        List.modifyHead_cons, List.append_nil, ih (List.cons_ne_nil _ _) each.2]

def Unmarked (text : List Char) : Prop :=
  ∀ c ∈ text, c ≠ '(' ∧ c ≠ ')' ∧ c ≠ ','

namespace Unmarked

theorem of_not_mem {text : List Char} (unopened : '(' ∉ text) (unclosed : ')' ∉ text) (uncut : ',' ∉ text) :
    Unmarked text := by
  intro c member
  refine ⟨?_, ?_, ?_⟩ <;> rintro rfl
  · exact unopened member
  · exact unclosed member
  · exact uncut member

theorem of_blank {text : List Char} (blank : Blank text) : Unmarked text :=
  of_not_mem (blank.not_mem (by decide)) (blank.not_mem (by decide)) (blank.not_mem (by decide))

end Unmarked

namespace Sealed

theorem append {first rest : List Char} (one : Sealed first) (other : Sealed rest) : Sealed (first ++ rest) := by
  rw [Sealed, List.foldlM_append, one]
  exact other

theorem of_unmarked {text : List Char} (unmarked : Unmarked text) : Sealed text := by
  induction text with
  | nil => rfl
  | cons c rest ih =>
    rw [Unmarked, List.forall_mem_cons] at unmarked
    obtain ⟨⟨unopened, unclosed, uncut⟩, others⟩ := unmarked
    have first : nest 0 c = some 0 :=
      nest_eq_some_iff.mpr (.inr (.inr ⟨⟨unopened, unclosed⟩, fun cuts => uncut cuts.1, rfl⟩))
    rw [Sealed, List.foldlM_cons, first]
    exact ih others

theorem of_trim {text : List Char} (own : Sealed (trim text)) : Sealed text := by
  obtain ⟨front, back, first, last, made⟩ := exists_margins text
  rw [made]
  exact ((of_unmarked (.of_blank first)).append own).append (of_unmarked (.of_blank last))

theorem parenthesized {members : List (List Char)} (each : ∀ member ∈ members, Sealed member) :
    Sealed ('(' :: joined members ++ [')']) := by
  -- One level deeper, the commas between the members are inside of parentheses too.
  have inside : (joined members).foldlM nest 1 = some 1 := by
    induction members with
    | nil => rfl
    | cons member others ih =>
      rw [List.forall_mem_cons] at each
      have first := foldlM_nest_deeper each.1
      cases others with
      | nil =>
        rw [joined_singleton]
        exact first
      | cons next rest =>
        rw [joined_cons member (List.cons_ne_nil _ _), List.foldlM_append, first]
        exact ih each.2
  rw [Sealed, List.cons_append, List.foldlM_cons]
  have opened : nest 0 '(' = some 1 := rfl
  rw [opened, Option.bind_eq_bind, Option.bind_some, List.foldlM_append, inside]
  rfl

end Sealed

end ChainScript.AbiType
