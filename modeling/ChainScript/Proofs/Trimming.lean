import Mathlib.Data.List.DropRight
import ChainScript.Text.Blank

/-! Texts without the blanks around them. -/

namespace ChainScript.Text

def Blank (text : List Char) : Prop :=
  ∀ c ∈ text, isBlank c = true

instance : DecidablePred Blank :=
  List.decidableBAll (isBlank · = true)

theorem Blank.not_mem {text : List Char} (blank : Blank text) {c : Char} (dark : isBlank c = false) : c ∉ text := by
  intro member
  rw [blank c member] at dark
  cases dark

/-- Trimming takes off blanks and nothing else. -/
theorem exists_margins (text : List Char) :
    ∃ front back, Blank front ∧ Blank back ∧ text = front ++ trim text ++ back := by
  refine ⟨text.takeWhile isBlank, (trimStart text).rtakeWhile isBlank, ?_, ?_, ?_⟩
  · exact fun c member => List.mem_takeWhile_imp member
  · exact fun c member => List.mem_rtakeWhile_imp member
  · have whole : trim text ++ (trimStart text).rtakeWhile isBlank = trimStart text :=
      List.rdropWhile_append_rtakeWhile
    rw [List.append_assoc, whole]
    exact (List.takeWhile_append_dropWhile).symm

theorem trim_infix (text : List Char) : trim text <:+: text := by
  obtain ⟨front, back, -, -, made⟩ := exists_margins text
  exact ⟨front, back, made.symm⟩

theorem trim_eq_nil_iff {text : List Char} : trim text = [] ↔ Blank text := by
  constructor
  · intro empty c member
    obtain ⟨front, back, first, last, made⟩ := exists_margins text
    rw [made, empty, List.append_nil] at member
    rcases List.mem_append.mp member with inside | inside
    · exact first c inside
    · exact last c inside
  · intro blank
    have none : trimStart text = [] := List.dropWhile_eq_nil_iff.mpr blank
    rw [trim, none]
    rfl

def dark (text : List Char) : List Char :=
  text.filter fun c => !isBlank c

theorem dark_append (first rest : List Char) : dark (first ++ rest) = dark first ++ dark rest :=
  List.filter_append ..

theorem dark_cons {c : Char} (shown : isBlank c = false) (rest : List Char) : dark (c :: rest) = c :: dark rest :=
  List.filter_cons_of_pos (by rw [shown]; rfl)

theorem dark_eq_nil_iff {text : List Char} : dark text = [] ↔ Blank text := by
  simp [dark, Blank]

theorem dark_trim (text : List Char) : dark (trim text) = dark text := by
  obtain ⟨front, back, first, last, made⟩ := exists_margins text
  have whole := congrArg dark made
  rw [dark_append, dark_append, dark_eq_nil_iff.mpr first, dark_eq_nil_iff.mpr last, List.nil_append,
    List.append_nil] at whole
  exact whole.symm

def Shown (text : List Char) : Prop :=
  ∀ c ∈ text, isBlank c = false

namespace Shown

instance : DecidablePred Shown :=
  List.decidableBAll (isBlank · = false)

theorem append {first rest : List Char} (one : Shown first) (other : Shown rest) : Shown (first ++ rest) :=
  List.forall_mem_append.mpr ⟨one, other⟩

/-- There is nothing to take off where nothing is blank. -/
theorem trim_eq {text : List Char} (shown : Shown text) : trim text = text := by
  have start : trimStart text = text :=
    List.dropWhile_eq_self_iff.mpr fun inside => Bool.eq_false_iff.mp (shown _ (List.getElem_mem inside))
  have finish : trimEnd text = text :=
    List.rdropWhile_eq_self_iff.mpr fun some => Bool.eq_false_iff.mp (shown _ (List.getLast_mem some))
  rw [trim, start, finish]

end Shown

theorem trim_trim (text : List Char) : trim (trim text) = trim text := by
  have start : trimStart (trim text) = trim text := by
    refine List.dropWhile_eq_self_iff.mpr fun inside dark => ?_
    have front : trim text <+: trimStart text := List.rdropWhile_prefix isBlank _
    have bound : 0 < (trimStart text).length := Nat.lt_of_lt_of_le inside front.length_le
    rw [front.getElem inside] at dark
    exact List.dropWhile_get_zero_not isBlank text bound dark
  have finish : trimEnd (trim text) = trim text := List.rdropWhile_idempotent isBlank (trimStart text)
  rw [trim, start, finish]

end ChainScript.Text
