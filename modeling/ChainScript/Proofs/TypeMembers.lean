import Mathlib.Data.List.Chain
import ChainScript.Proofs.TypeCuts

/-! Texts that can be members of a tuple. Their parentheses match, which counting shows; and no member inside of them
is empty, which what stands beside what shows, the blanks left out. -/

namespace ChainScript.AbiType
open Text

/-- Every parenthesis that closes has an earlier one that opens, and every one that opens is closed. -/
structure Balanced (text : List Char) : Prop where
  opened : ∀ front, front <+: text → front.count ')' ≤ front.count '('
  closed : text.count ')' = text.count '('

private theorem count_nest {text : List Char} {depth final : Nat} (nested : text.foldlM nest depth = some final) :
    text.count ')' + final = text.count '(' + depth := by
  induction text generalizing depth with
  | nil =>
    cases nested
    rfl
  | cons c rest ih =>
    rw [List.foldlM_cons] at nested
    obtain ⟨next, first, others⟩ := Option.bind_eq_some_iff.mp nested
    have counted := ih others
    rcases nest_eq_some_iff.mp first with ⟨rfl, rfl⟩ | ⟨rfl, rfl⟩ | ⟨⟨unopened, unclosed⟩, -, rfl⟩
    · rw [List.count_cons_self, List.count_cons_of_ne (by decide)]
      omega
    · rw [List.count_cons_self, List.count_cons_of_ne (by decide)]
      omega
    · rw [List.count_cons_of_ne unopened, List.count_cons_of_ne unclosed]
      exact counted

theorem Sealed.balanced {text : List Char} (own : Sealed text) : Balanced text := by
  constructor
  · rintro front ⟨back, rfl⟩
    rw [Sealed, List.foldlM_append] at own
    obtain ⟨depth, nested, -⟩ := Option.bind_eq_some_iff.mp own
    have counted := count_nest nested
    omega
  · exact count_nest own

/-- What stands beside a member that is empty. -/
def Voids (opening closing : Char) : Prop :=
  opening = '(' ∧ closing = ',' ∨ opening = ',' ∧ closing = ',' ∨ opening = ',' ∧ closing = ')'

/-- A member of nothing but blanks: a comma has no other member on one of its sides. -/
def EmptyMember (text : List Char) : Prop :=
  ∃ front opening blanks closing back,
    text = front ++ opening :: blanks ++ closing :: back ∧ Blank blanks ∧ Voids opening closing

theorem Unmarked.dark {text : List Char} (unmarked : Unmarked text) : Unmarked (dark text) :=
  fun c member => unmarked c (List.mem_of_mem_filter member)

/-- Beside commas, no member of the text is empty, and the text is none itself. -/
def Occupied (text : List Char) : Prop :=
  (',' :: dark text ++ [',']).IsChain (¬Voids · ·)

namespace Occupied

theorem of_trim {text : List Char} (own : Occupied (trim text)) : Occupied text := by
  rw [Occupied, dark_trim] at own
  exact own

theorem not_blank {text : List Char} (occupied : Occupied text) : ¬Blank text := by
  intro blank
  rw [Occupied, dark_eq_nil_iff.mpr blank] at occupied
  exact (List.isChain_cons_cons.mp occupied).1 (.inr (.inl ⟨rfl, rfl⟩))

theorem no_emptyMember {text : List Char} (occupied : Occupied text) : ¬EmptyMember text := by
  rintro ⟨front, opening, blanks, closing, back, rfl, blank, void⟩
  have shown : isBlank opening = false ∧ isBlank closing = false := by
    rcases void with ⟨rfl, rfl⟩ | ⟨rfl, rfl⟩ | ⟨rfl, rfl⟩ <;> decide
  have found : dark (front ++ opening :: blanks ++ closing :: back) =
      dark front ++ opening :: closing :: dark back := by
    rw [dark_append, dark_append, dark_cons shown.1, dark_cons shown.2, dark_eq_nil_iff.mpr blank, List.append_assoc]
    rfl
  have inner : (dark (front ++ opening :: blanks ++ closing :: back)).IsChain (¬Voids · ·) :=
    List.IsChain.infix occupied ⟨[','], [','], rfl⟩
  rw [found, List.isChain_append_cons_cons] at inner
  exact inner.2.1 void

private theorem chain_concat {front : List Char} {c : Char} (own : front.IsChain (¬Voids · ·))
    (following : ∀ last ∈ front.getLast?, ¬Voids last c) : (front ++ [c]).IsChain (¬Voids · ·) := by
  refine List.isChain_append.mpr ⟨own, .singleton c, ?_⟩
  intro last found other first
  cases Option.mem_some.mp first
  exact following last found

private theorem chain_append {front back : List Char} (own : front.IsChain (¬Voids · ·)) (some : back ≠ [])
    (unmarked : Unmarked back) : (front ++ back ++ [',']).IsChain (¬Voids · ·) := by
  have before (c other : Char) (member : other ∈ back) : ¬Voids c other := by
    obtain ⟨-, unclosed, uncut⟩ := unmarked other member
    rintro (⟨-, cut⟩ | ⟨-, cut⟩ | ⟨-, closed⟩)
    · exact uncut cut
    · exact uncut cut
    · exact unclosed closed
  have after (c other : Char) (member : c ∈ back) : ¬Voids c other := by
    obtain ⟨unopened, -, uncut⟩ := unmarked c member
    rintro (⟨opened, -⟩ | ⟨cut, -⟩ | ⟨cut, -⟩)
    · exact unopened opened
    · exact uncut cut
    · exact uncut cut
  have whole : (front ++ back).IsChain (¬Voids · ·) := by
    refine List.isChain_append.mpr ⟨own, ?_, ?_⟩
    · exact (List.pairwise_of_forall_mem_list fun c _ other member => before c other member).isChain
    · exact fun c _ other first => before c other (List.mem_of_mem_head? first)
  refine chain_concat whole fun last found => ?_
  rw [List.getLast?_append_of_ne_nil _ some] at found
  exact after last ',' (List.mem_of_getLast? found)

theorem of_unmarked {text : List Char} (unmarked : Unmarked text) (shown : ¬Blank text) : Occupied text :=
  chain_append (.singleton _) (fun none => shown (dark_eq_nil_iff.mp none)) unmarked.dark

theorem append {front back : List Char} (occupied : Occupied front) (unmarked : Unmarked back) (shown : ¬Blank back) :
    Occupied (front ++ back) := by
  rw [Occupied, dark_append]
  exact chain_append (List.IsChain.left_of_append occupied) (fun none => shown (dark_eq_nil_iff.mp none)) unmarked.dark

theorem unit {blanks : List Char} (blank : Blank blanks) : Occupied ('(' :: blanks ++ [')']) := by
  have shown : dark ('(' :: blanks ++ [')']) = ['(', ')'] := by
    rw [List.cons_append, dark_cons (by decide), dark_append, dark_eq_nil_iff.mpr blank]
    rfl
  rw [Occupied, shown]
  simp [Voids]

private theorem commas {members : List (List Char)} (some : members ≠ [])
    (each : ∀ member ∈ members, Occupied member) : Occupied (joined members) := by
  induction members with
  | nil => exact absurd rfl some
  | cons member others ih =>
    rw [List.forall_mem_cons] at each
    cases others with
    | nil =>
      rw [joined_singleton]
      exact each.1
    | cons next rest =>
      have following := ih (List.cons_ne_nil _ _) each.2
      have whole : ',' :: dark (joined (member :: next :: rest)) ++ [','] =
          (',' :: dark member) ++ ',' :: (dark (joined (next :: rest)) ++ [',']) := by
        rw [joined_cons member (List.cons_ne_nil _ _), dark_append, dark_cons (by decide), List.cons_append,
          List.cons_append, List.append_assoc, List.cons_append]
      rw [Occupied, whole, List.isChain_split]
      exact ⟨each.1, following⟩

theorem parenthesized {members : List (List Char)} (some : members ≠ [])
    (each : ∀ member ∈ members, Occupied member) : Occupied ('(' :: joined members ++ [')']) := by
  have inside := commas some each
  -- At both ends a parenthesis takes the place of a comma: it allows more beside it than the comma does.
  have opened : ('(' :: dark (joined members) ++ [',']).IsChain (¬Voids · ·) := by
    refine List.IsChain.imp_head (fun {c} beside => ?_) inside
    rintro (⟨-, cut⟩ | ⟨none, -⟩ | ⟨none, -⟩)
    · exact beside (.inr (.inl ⟨rfl, cut⟩))
    · cases none
    · cases none
  have ends := List.isChain_append.mp opened
  have closed : ('(' :: dark (joined members) ++ [')']).IsChain (¬Voids · ·) := by
    refine chain_concat ends.1 fun last found => ?_
    rintro (⟨-, none⟩ | ⟨-, none⟩ | ⟨cut, -⟩)
    · cases none
    · cases none
    · exact ends.2.2 last found ',' rfl (.inr (.inl ⟨cut, rfl⟩))
  have shown : dark ('(' :: joined members ++ [')']) = '(' :: dark (joined members) ++ [')'] := by
    rw [dark_append, dark_cons (by decide)]
    rfl
  have followed : ('(' :: dark (joined members) ++ [')'] ++ [',']).IsChain (¬Voids · ·) := by
    refine chain_concat closed fun last found => ?_
    rw [List.getLast?_concat] at found
    cases Option.mem_some.mp found
    simp [Voids]
  have preceded : ¬Voids ',' '(' := by simp [Voids]
  rw [Occupied, shown]
  exact List.isChain_cons_cons.mpr ⟨preceded, followed⟩

end Occupied

/-- A text that can be a member of a tuple. -/
structure Member (text : List Char) : Prop where
  sealed : Sealed text
  occupied : Occupied text

namespace Member

theorem of_trim {text : List Char} (own : Member (trim text)) : Member text :=
  ⟨own.sealed.of_trim, own.occupied.of_trim⟩

theorem of_unmarked {text : List Char} (unmarked : Unmarked text) (shown : ¬Blank text) : Member text :=
  ⟨.of_unmarked unmarked, .of_unmarked unmarked shown⟩

theorem append {front back : List Char} (member : Member front) (unmarked : Unmarked back) (shown : ¬Blank back) :
    Member (front ++ back) :=
  ⟨member.sealed.append (.of_unmarked unmarked), member.occupied.append unmarked shown⟩

theorem unit {blanks : List Char} (blank : Blank blanks) : Member ('(' :: blanks ++ [')']) := by
  have inside : ∀ member ∈ [blanks], Sealed member :=
    List.forall_mem_singleton.mpr (.of_unmarked (.of_blank blank))
  have closed := Sealed.parenthesized inside
  rw [joined_singleton] at closed
  exact ⟨closed, .unit blank⟩

theorem parenthesized {members : List (List Char)} (some : members ≠ [])
    (each : ∀ member ∈ members, Member member) : Member ('(' :: joined members ++ [')']) :=
  ⟨.parenthesized fun member inside => (each member inside).sealed,
    .parenthesized some fun member inside => (each member inside).occupied⟩

end Member

end ChainScript.AbiType
