import ChainScript.Proofs.Trimming
import ChainScript.Text.Lowercase

/-! Letters of the alphabet in either case. A capital and its small letter are alike in all that decides on blanks and on
lower case, so neither changes with the case of such letters; and without other letters, lower case changes nothing else. -/

namespace ChainScript.Text

theorem toNat_toLower (c : Char) :
    c.toLower.toNat = if 65 ≤ c.toNat ∧ c.toNat ≤ 90 then c.toNat + 32 else c.toNat := by
  unfold Char.toLower
  split
  next capital =>
    have low : 65 ≤ c.toNat := UInt32.le_iff_toNat_le.mp capital.1
    have high : c.toNat ≤ 90 := UInt32.le_iff_toNat_le.mp capital.2
    rw [if_pos ⟨low, high⟩]
    change (c.val + 32).toNat = c.val.toNat + 32
    rw [UInt32.toNat_add]
    exact Nat.mod_eq_of_lt (Nat.lt_of_le_of_lt (Nat.add_le_add_right high 32) (by decide))
  next other =>
    rw [if_neg]
    exact fun capital => other ⟨UInt32.le_iff_toNat_le.mpr capital.1, UInt32.le_iff_toNat_le.mpr capital.2⟩

/-- What is the same for every capital and its small letter does not depend on the case of a letter. -/
theorem of_capitals {Result : Type} {test : Char → Result}
    (each : ∀ index < 26, test (Char.ofNat (65 + index)).toLower = test (Char.ofNat (65 + index))) (c : Char) :
    test c.toLower = test c := by
  by_cases capital : 65 ≤ c.toNat ∧ c.toNat ≤ 90
  · have own := each (c.toNat - 65) (by omega)
    rwa [Nat.add_sub_cancel' capital.1, Char.ofNat_toNat] at own
  · have same : c.toLower = c := by
      apply Char.toNat_inj.mp
      rw [toNat_toLower, if_neg capital]
    rw [same]

theorem isBlank_toLower (c : Char) : isBlank c.toLower = isBlank c :=
  of_capitals (by decide) c

theorem isCased_toLower (c : Char) : isCased c.toLower = isCased c :=
  of_capitals (by decide) c

theorem isCaseIgnorable_toLower (c : Char) : isCaseIgnorable c.toLower = isCaseIgnorable c :=
  of_capitals (by decide) c

theorem lowerChar_toLower (c : Char) : lowerChar c.toLower = lowerChar c :=
  of_capitals (by decide) c

theorem toLower_eq_sigma (c : Char) : (c.toLower = '\u03A3') = (c = '\u03A3') :=
  @of_capitals _ (· = '\u03A3') (by decide) c

/-- The text with small letters for the capitals of the alphabet. Other letters keep their case. -/
def small (text : List Char) : List Char :=
  text.map Char.toLower

theorem trimStart_small (text : List Char) : trimStart (small text) = small (trimStart text) := by
  have same : isBlank ∘ Char.toLower = isBlank := funext isBlank_toLower
  rw [trimStart, small, List.dropWhile_map, same]
  rfl

theorem trim_small (text : List Char) : trim (small text) = small (trim text) := by
  have reversed (text : List Char) : (small text).reverse = small text.reverse := List.map_reverse.symm
  have finish (text : List Char) : trimEnd (small text) = small (trimEnd text) := by
    have start := trimStart_small text.reverse
    unfold trimStart at start
    rw [trimEnd, reversed, start, reversed]
    rfl
  rw [trim, trimStart_small, finish]
  rfl

/-- Blanks around a text are trimmed with the blanks that it has itself. -/
theorem trim_margins {front back : List Char} (before : Blank front) (behind : Blank back) (text : List Char) :
    trim (front ++ text ++ back) = trim text := by
  have start : trimStart (front ++ text ++ back) = trimStart (text ++ back) := by
    rw [trimStart, List.append_assoc]
    exact List.dropWhile_append_of_pos before
  have finish (inner : List Char) : trimEnd (inner ++ back) = trimEnd inner := by
    unfold trimEnd
    rw [List.reverse_append, List.dropWhile_append_of_pos]
    intro c member
    exact behind c (List.mem_reverse.mp member)
  rw [trim, start, trim, trimStart, List.dropWhile_append]
  split
  next none =>
    have nothing : text.dropWhile isBlank = [] := List.isEmpty_iff.mp none
    have rest : back.dropWhile isBlank = [] := List.dropWhile_eq_nil_iff.mpr behind
    rw [rest, trimStart, nothing]
  next some => exact finish _

theorem meetsCased_small (text : List Char) : meetsCased (small text) = meetsCased text := by
  have same : isCaseIgnorable ∘ Char.toLower = isCaseIgnorable := funext isCaseIgnorable_toLower
  unfold meetsCased small
  rw [List.dropWhile_map, same]
  cases text.dropWhile isCaseIgnorable with
  | nil => rfl
  | cons c rest => exact isCased_toLower c

theorem lowerAfter_small (passed text : List Char) : lowerAfter (small passed) (small text) = lowerAfter passed text := by
  induction text generalizing passed with
  | nil => rfl
  | cons c rest ih =>
    have next := ih (c :: passed)
    have around := meetsCased_small passed
    have behind := meetsCased_small rest
    simp only [small, List.map_cons] at next around behind
    simp only [small, List.map_cons, lowerAfter, toLower_eq_sigma, lowerChar_toLower, around, behind, next]

/-- The lower case of a text does not depend on the case of the letters of the alphabet in it. -/
theorem lowercase_small (text : List Char) : lowercase (small text) = lowercase text :=
  lowerAfter_small [] text

def Ascii (text : List Char) : Prop :=
  ∀ c ∈ text, c.toNat < 128

instance : DecidablePred Ascii :=
  List.decidableBAll fun c : Char => c.toNat < 128

theorem lowerChar_of_ascii {c : Char} (ascii : c.toNat < 128) : lowerChar c = [c.toLower] := by
  have each : ∀ code < 128, lowerChar (Char.ofNat code) = [(Char.ofNat code).toLower] := by decide
  have own := each c.toNat ascii
  rwa [Char.ofNat_toNat] at own

private theorem lowerAfter_of_ascii {text : List Char} (ascii : Ascii text) (passed : List Char) :
    lowerAfter passed text = small text := by
  induction text generalizing passed with
  | nil => rfl
  | cons c rest ih =>
    obtain ⟨first, others⟩ := List.forall_mem_cons.mp ascii
    have plain : c ≠ '\u03A3' := by
      rintro rfl
      exact absurd first (by decide)
    rw [lowerAfter, if_neg plain, lowerChar_of_ascii first, ih others]
    rfl

theorem lowercase_of_ascii {text : List Char} (ascii : Ascii text) : lowercase text = small text :=
  lowerAfter_of_ascii ascii []

end ChainScript.Text
