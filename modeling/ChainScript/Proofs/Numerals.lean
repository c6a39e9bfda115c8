import Mathlib.Data.Nat.Digits.Defs
import Mathlib.Tactic.Ring
import ChainScript.Text.Decimal

/-! Sizes in text: which texts are numerals, and of which numbers. -/

namespace ChainScript.Text

/-- The number of decimal digits, the highest first. -/
def digitsValue (digits : List Char) : Nat :=
  Nat.ofDigits 10 (digits.reverse.map fun c => c.toNat - '0'.toNat)

/-- Digits, at least one, of a number of 64 bits. -/
structure Digits (digits : List Char) (value : Nat) : Prop where
  some : digits ≠ []
  each : ∀ c ∈ digits, isDigit c = true
  number : digitsValue digits = value
  fits : value < 2 ^ 64

inductive Numeral : List Char → Nat → Prop where
  | bare {digits : List Char} {value : Nat} (made : Digits digits value) : Numeral digits value
  | signed {digits : List Char} {value : Nat} (made : Digits digits value) : Numeral ('+' :: digits) value

theorem ofDigits_reverse_cons (base digit : Nat) (digits : List Nat) :
    Nat.ofDigits base (digit :: digits).reverse =
      base ^ digits.length * digit + Nat.ofDigits base digits.reverse := by
  rw [List.reverse_cons, Nat.ofDigits_append, List.length_reverse, Nat.ofDigits_singleton]
  exact Nat.add_comm _ _

private theorem digitsValue_cons (c : Char) (rest : List Char) :
    digitsValue (c :: rest) = 10 ^ rest.length * (c.toNat - 48) + digitsValue rest := by
  unfold digitsValue
  rw [List.map_reverse, List.map_reverse, List.map_cons, ofDigits_reverse_cons, List.length_map]
  rfl

private theorem decimalFrom?_eq_some_iff {digits : List Char} {value total : Nat} :
    decimalFrom? value digits = some total ↔
      (∀ c ∈ digits, isDigit c = true) ∧ 10 ^ digits.length * value + digitsValue digits = total := by
  induction digits generalizing value with
  | nil => simp [decimalFrom?, digitsValue]
  | cons c rest ih =>
    have shifted : 10 ^ rest.length * (10 * value + (c.toNat - 48)) + digitsValue rest =
        10 ^ (c :: rest).length * value + digitsValue (c :: rest) := by
      rw [digitsValue_cons, List.length_cons]
      ring
    unfold decimalFrom?
    split
    next digit => rw [ih, shifted, List.forall_mem_cons, and_iff_right digit]
    next other =>
      constructor
      · intro none
        cases none
      · intro all
        exact absurd (all.1 c List.mem_cons_self) other

theorem decimal?_eq_some_iff {digits : List Char} {value : Nat} :
    decimal? digits = some value ↔ (∀ c ∈ digits, isDigit c = true) ∧ digitsValue digits = value := by
  rw [decimal?, decimalFrom?_eq_some_iff, Nat.mul_zero, Nat.zero_add]

private theorem digits_iff {digits : List Char} {value : Nat} :
    (if digits.isEmpty then none else (decimal? digits).filter (· < UInt64.size)) = some value ↔
      Digits digits value := by
  cases digits with
  | nil =>
    constructor
    · intro none
      cases none
    · intro made
      exact absurd rfl made.some
  | cons c rest =>
    rw [List.isEmpty_cons, if_neg Bool.false_ne_true, Option.filter_eq_some_iff, decimal?_eq_some_iff,
      decide_eq_true_eq]
    constructor
    · rintro ⟨⟨each, number⟩, fits⟩
      exact ⟨List.cons_ne_nil c rest, each, number, fits⟩
    · intro made
      exact ⟨⟨made.each, made.number⟩, made.fits⟩

theorem size?_eq_some_iff {text : List Char} {value : Nat} : size? text = some value ↔ Numeral text value := by
  unfold size?
  split
  next digits =>
    rw [digits_iff]
    constructor
    · exact Numeral.signed
    · rintro (made | made)
      · exact absurd (made.each '+' List.mem_cons_self) (by decide)
      · exact made
  next unsigned =>
    rw [digits_iff]
    constructor
    · exact Numeral.bare
    · rintro (made | made)
      · exact made
      · exact absurd rfl (unsigned _)

theorem Numeral.characters {text : List Char} {value : Nat} (numeral : Numeral text value) :
    ∀ c ∈ text, isDigit c = true ∨ c = '+' := by
  cases numeral with
  | bare made => exact fun c member => .inl (made.each c member)
  | signed made =>
    rw [List.forall_mem_cons]
    exact ⟨.inr rfl, fun c member => .inl (made.each c member)⟩

theorem Numeral.not_mem {text : List Char} {value : Nat} (numeral : Numeral text value) {c : Char}
    (other : ¬(isDigit c = true ∨ c = '+')) : c ∉ text :=
  fun member => other (numeral.characters c member)

theorem Numeral.ne_nil {text : List Char} {value : Nat} (numeral : Numeral text value) : text ≠ [] := by
  cases numeral with
  | bare made => exact made.some
  | signed made => exact List.cons_ne_nil _ _

theorem Numeral.fits {text : List Char} {value : Nat} (numeral : Numeral text value) : value < 2 ^ 64 := by
  cases numeral with
  | bare made => exact made.fits
  | signed made => exact made.fits

private theorem ofDigitChars_eq_digitsValue (digits : List Char) :
    Nat.ofDigitChars 10 digits 0 = digitsValue digits := by
  induction digits with
  | nil => rfl
  | cons c rest ih =>
    rw [Nat.ofDigitChars_cons, Nat.ofDigitChars_eq_ofDigitChars_zero, ih, digitsValue_cons, Nat.mul_zero, Nat.zero_add]
    rfl

theorem isDigit_of_mem_toString {value : Nat} : ∀ c ∈ (toString value).toList, isDigit c = true := by
  rw [Nat.toString_eq_repr, Nat.toList_repr]
  exact fun c member => Nat.isDigit_of_mem_toDigits (by decide) (by decide) member

theorem toString_ne_nil (value : Nat) : (toString value).toList ≠ [] := by
  rw [Nat.toString_eq_repr, Nat.toList_repr]
  exact Nat.toDigits_ne_nil

theorem digitsValue_toString (value : Nat) : digitsValue (toString value).toList = value := by
  rw [Nat.toString_eq_repr, Nat.toList_repr, ← ofDigitChars_eq_digitsValue, Nat.ofDigitChars_ten_toDigits]

theorem digits_toString {value : Nat} (fits : value < 2 ^ 64) : Digits (toString value).toList value :=
  ⟨toString_ne_nil value, isDigit_of_mem_toString, digitsValue_toString value, fits⟩

/-- Different numbers are written with different digits. -/
theorem toString_injective {value other : Nat} (same : (toString value).toList = (toString other).toList) :
    value = other := by
  rw [← digitsValue_toString value, same, digitsValue_toString]

/-- Every number of 64 bits is written with a numeral of it. -/
theorem numeral_toString {value : Nat} (fits : value < 2 ^ 64) : Numeral (toString value).toList value :=
  .bare (digits_toString fits)

end ChainScript.Text
