import ChainScript.Proofs.HexDigits
import ChainScript.Proofs.ExceptSteps
import ChainScript.Reader

/-! Tokens that are read as numbers of 256 bits. They are the decimal digits of such a number, and at most 64 hexadecimal
digits behind a mark; but no digits at all are read as zero, and a further mark in front of the digits is passed over. -/

namespace ChainScript

open Text

namespace Word

theorem ofNat?_eq_some_iff {value : Nat} {word : Word} : ofNat? value = some word ↔ word.toNat = value := by
  unfold ofNat?
  dsimp only
  constructor
  · intro made
    split at made
    next fits =>
      cases made
      exact fits
    next => cases made
  · rintro rfl
    rw [BitVec.ofNat_toNat, BitVec.setWidth_eq, if_pos rfl]

theorem ofDecimal?_eq_some_iff {digits : List Char} {word : Word} :
    ofDecimal? digits = some word ↔ (∀ c ∈ digits, isDigit c = true) ∧ digitsValue digits = word.toNat := by
  simp only [ofDecimal?, Option.bind_eq_bind, Option.bind_eq_some_iff, decimal?_eq_some_iff, ofNat?_eq_some_iff]
  constructor
  · rintro ⟨value, read, rfl⟩
    exact read
  · intro read
    exact ⟨_, read, rfl⟩

/-- At most 64 hexadecimal digits, in either case, of this number. -/
def Fills (digits : List Char) (number : Nat) : Prop :=
  digits.length ≤ 64 ∧ ∃ values, HexDigits values digits ∧ Nat.ofDigits 16 values.reverse = number

theorem Fills.lt {digits : List Char} {number : Nat} (fills : Fills digits number) : number < 2 ^ 256 := by
  obtain ⟨short, values, spelled, rfl⟩ := fills
  calc Nat.ofDigits 16 values.reverse
      < 16 ^ digits.length := spelled.lt
    _ ≤ 16 ^ 64 := Nat.pow_le_pow_right (by decide) short
    _ = 2 ^ 256 := by decide

theorem ofHex?_eq_some_iff {text : List Char} {word : Word} :
    ofHex? text = some word ↔ Fills text word.toNat ∨ ∃ digits, text = '0' :: 'x' :: digits ∧ Fills digits word.toNat := by
  have fills (digits : List Char) :
      (if digits.length ≤ 64 then hexNumber? digits >>= ofNat? else none) = some word ↔ Fills digits word.toNat := by
    simp only [Option.ite_none_right_eq_some, Option.bind_eq_bind, Option.bind_eq_some_iff, hexNumber?_eq_some_iff,
      ofNat?_eq_some_iff, Fills, exists_eq_right']
  unfold ofHex?
  dsimp only
  rw [fills]
  split
  next digits =>
    constructor
    · intro own
      exact .inr ⟨digits, rfl, own⟩
    · rintro (whole | ⟨others, same, own⟩)
      · obtain ⟨-, values, spelled, -⟩ := whole
        exact absurd spelled HexDigits.unmarked
      · cases same
        exact own
  next unmarked =>
    constructor
    · exact .inl
    · rintro (own | ⟨digits, rfl, -⟩)
      · exact own
      · exact absurd rfl (unmarked digits)

end Word

namespace Reader

/-- A token that spells a number: decimal digits, or hexadecimal digits behind a mark, at least one. -/
inductive NumberToken : List Char → Nat → Prop where
  | decimal {digits : List Char} (some : digits ≠ []) (each : ∀ c ∈ digits, isDigit c = true) :
      NumberToken digits (digitsValue digits)
  | hexadecimal {mark : Char} {digits : List Char} {values : List Nat} (marked : mark = 'x' ∨ mark = 'X')
      (some : digits ≠ []) (spelled : HexDigits values digits) :
      NumberToken ('0' :: mark :: digits) (Nat.ofDigits 16 values.reverse)

/-- The tokens that are read, with the numbers they are read as. There may be no digits in any of them. -/
inductive ReadAs : List Char → Nat → Prop where
  | decimal {digits : List Char} (each : ∀ c ∈ digits, isDigit c = true) (fits : digitsValue digits < 2 ^ 256) :
      ReadAs digits (digitsValue digits)
  | hexadecimal {mark : Char} {digits : List Char} {number : Nat} (marked : mark = 'x' ∨ mark = 'X')
      (fills : Word.Fills digits number) : ReadAs ('0' :: mark :: digits) number
  | remarked {mark : Char} {digits : List Char} {number : Nat} (marked : mark = 'x' ∨ mark = 'X')
      (fills : Word.Fills digits number) : ReadAs ('0' :: mark :: '0' :: 'x' :: digits) number

theorem ReadAs.lt {token : List Char} {number : Nat} (read : ReadAs token number) : number < 2 ^ 256 := by
  cases read with
  | decimal each fits => exact fits
  | hexadecimal marked fills => exact fills.lt
  | remarked marked fills => exact fills.lt

private theorem not_digits_of_mark {mark : Char} (marked : mark = 'x' ∨ mark = 'X') (digits : List Char) :
    ¬∀ c ∈ '0' :: mark :: digits, isDigit c = true := by
  intro each
  have digit := each mark (List.mem_cons_of_mem _ List.mem_cons_self)
  rcases marked with rfl | rfl <;> cases digit

theorem numberOfToken?_eq_some_iff {token : String} {word : Word} :
    numberOfToken? token = some word ↔ ReadAs token.toList word.toNat := by
  unfold numberOfToken?
  generalize token.toList = text
  split
  next digits behind =>
    obtain ⟨mark, marked, rfl⟩ := afterHexMark?_eq_some_iff.mp behind
    rw [Word.ofHex?_eq_some_iff]
    constructor
    · rintro (fills | ⟨others, rfl, fills⟩)
      · exact .hexadecimal marked fills
      · exact .remarked marked fills
    · generalize word.toNat = number
      intro read
      cases read with
      | decimal each => exact absurd each (not_digits_of_mark marked digits)
      | hexadecimal _ fills => exact .inl fills
      | remarked _ fills => exact .inr ⟨_, rfl, fills⟩
  next unmarked =>
    rw [Word.ofDecimal?_eq_some_iff]
    constructor
    · rintro ⟨each, number⟩
      rw [← number]
      exact .decimal each (number ▸ word.isLt)
    · generalize word.toNat = number
      intro read
      cases read with
      | decimal each => exact ⟨each, rfl⟩
      | hexadecimal marked => cases unmarked.symm.trans (afterHexMark?_eq_some_iff.mpr ⟨_, marked, rfl⟩)
      | remarked marked => cases unmarked.symm.trans (afterHexMark?_eq_some_iff.mpr ⟨_, marked, rfl⟩)

theorem number_word (token : String) :
    number (some (.word token)) = (numberOfToken? token).elim (.error (.reading (.notNumber token))) .ok := by
  rw [number, token_word, ok_bind]
  cases numberOfToken? token <;> rfl

theorem numberOfToken?_eq_none_iff {token : String} :
    numberOfToken? token = none ↔ ∀ value, ¬ReadAs token.toList value := by
  rw [Option.eq_none_iff_forall_ne_some]
  constructor
  · intro none value read
    refine none (BitVec.ofNat 256 value) (numberOfToken?_eq_some_iff.mpr ?_)
    rwa [BitVec.toNat_ofNat, Nat.mod_eq_of_lt read.lt]
  · intro unread word found
    exact unread word.toNat (numberOfToken?_eq_some_iff.mp found)

/-- Tokens that spell a number are read as it while their hexadecimal digits fill no more than 64 places. -/
theorem NumberToken.readAs_iff {token : List Char} {value : Nat} (spelled : NumberToken token value)
    (fits : value < 2 ^ 256) :
    ReadAs token value ↔ ∀ digits, afterHexMark? token = some digits → digits.length ≤ 64 := by
  cases spelled with
  | decimal some each =>
    refine iff_of_true (.decimal each fits) fun digits behind => ?_
    obtain ⟨mark, marked, rfl⟩ := afterHexMark?_eq_some_iff.mp behind
    exact absurd each (not_digits_of_mark marked digits)
  | @hexadecimal mark digits values marked some spelled =>
    have behind : afterHexMark? ('0' :: mark :: digits) = .some digits :=
      afterHexMark?_eq_some_iff.mpr ⟨mark, marked, rfl⟩
    constructor
    · intro read others found
      cases behind.symm.trans found
      generalize Nat.ofDigits 16 values.reverse = number at read
      cases read with
      | decimal each => exact absurd each (not_digits_of_mark marked digits)
      | hexadecimal _ fills => exact fills.1
      | remarked => exact absurd spelled HexDigits.unmarked
    · intro short
      exact .hexadecimal marked ⟨short digits behind, values, spelled, rfl⟩

/-- A word is read as a number just if it is one of the tokens above, and is else itself the fault. A token that spells
a number of 256 bits is among them, unless it has more than 64 hexadecimal digits. -/
theorem number_of_token (token : String) :
    (∀ word, number (some (.word token)) = .ok word ↔ ReadAs token.toList word.toNat) ∧
    (∀ fault, number (some (.word token)) = .error fault ↔
      fault = .reading (.notNumber token) ∧ ∀ value, ¬ReadAs token.toList value) ∧
    ∀ value, NumberToken token.toList value → value < 2 ^ 256 →
      (ReadAs token.toList value ↔ ∀ digits, afterHexMark? token.toList = some digits → digits.length ≤ 64) := by
  refine ⟨?_, ?_, fun value spelled fits => spelled.readAs_iff fits⟩
  · intro word
    rw [number_word, ← numberOfToken?_eq_some_iff]
    cases numberOfToken? token <;> simp
  · intro fault
    rw [number_word, ← numberOfToken?_eq_none_iff]
    cases numberOfToken? token <;> simp [eq_comm]

/-- Hexadecimal digits in both cases are read as the number they spell; a sign is no digit. -/
theorem number_of_token_capital :
    number (some (.word "0X1f")) = .ok (BitVec.ofNat 256 31) ∧ NumberToken "0X1f".toList 31 ∧ ReadAs "0X1f".toList 31 ∧
      number (some (.word "-1")) = .error (.reading (.notNumber "-1")) := by
  have digits : HexDigits [1, 15] ['1', 'f'] := .cons (by decide) (.cons (by decide) .nil)
  have spelled : NumberToken "0X1f".toList 31 := .hexadecimal (.inr rfl) (by decide) digits
  have short : ∀ digits, afterHexMark? "0X1f".toList = some digits → digits.length ≤ 64 := by
    intro digits behind
    cases behind
    decide
  obtain ⟨reads, -, spells⟩ := number_of_token "0X1f"
  obtain ⟨-, fails, -⟩ := number_of_token "-1"
  have read := (spells 31 spelled (by decide)).mpr short
  exact ⟨(reads (BitVec.ofNat 256 31)).mpr read, spelled, read,
    (fails _).mpr ⟨rfl, numberOfToken?_eq_none_iff.mp (by decide)⟩⟩

/-- No digits at all are read as zero, with a mark and without, and digits behind two marks are read; one is not read when
64 zeros stand before it. -/
theorem number_of_no_digits :
    let long := String.ofList ('0' :: 'x' :: (List.replicate 64 '0' ++ ['1']))
    (number (some (.word "")) = .ok (BitVec.ofNat 256 0) ∧ ∀ value, ¬NumberToken "".toList value) ∧
      (number (some (.word "0x")) = .ok (BitVec.ofNat 256 0) ∧ ∀ value, ¬NumberToken "0x".toList value) ∧
      (number (some (.word "0x0x10")) = .ok (BitVec.ofNat 256 16) ∧ ∀ value, ¬NumberToken "0x0x10".toList value) ∧
      number (some (.word long)) = .error (.reading (.notNumber long)) ∧ NumberToken long.toList 1 := by
  intro long
  have read (token : String) (word : Word) (found : numberOfToken? token = some word) :
      number (some (.word token)) = .ok word := by
    rw [number_word, found]
    rfl
  refine ⟨⟨read "" _ (by decide), ?_⟩, ⟨read "0x" _ (by decide), ?_⟩, ⟨read "0x0x10" _ (by decide), ?_⟩, ?_, ?_⟩
  · rintro value (some | _)
    exact some rfl
  · rintro value (⟨-, each⟩ | ⟨marked, some, -⟩)
    · exact not_digits_of_mark (.inl rfl) [] each
    · exact some rfl
  · rintro value (⟨-, each⟩ | ⟨marked, -, spelled⟩)
    · exact not_digits_of_mark (.inl rfl) _ each
    · exact HexDigits.unmarked spelled
  · have refused : numberOfToken? long = none := by decide
    rw [number_word, refused]
    rfl
  · have zeros : hexNumber? (List.replicate 64 '0' ++ ['1']) = some 1 := by decide
    obtain ⟨values, spelled, one⟩ := hexNumber?_eq_some_iff.mp zeros
    rw [String.toList_ofList, ← one]
    exact .hexadecimal (.inl rfl) (by decide) spelled

end Reader

end ChainScript
