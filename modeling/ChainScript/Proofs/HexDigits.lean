import Mathlib.Data.List.Forall2
import ChainScript.Proofs.LetterCase
import ChainScript.Proofs.Numerals

/-! Digits of base sixteen, where either case stands for the same value. A reader takes just the digits of some values, and
finds the number or the bytes that a writer of small letters spells with them. -/

namespace ChainScript.Text

theorem toNat_hexDigit {value : Nat} (small : value < 16) :
    (hexDigit value).toNat = if value < 10 then 48 + value else 87 + value := by
  have each : ∀ value < 16, (hexDigit value).toNat = if value < 10 then 48 + value else 87 + value := by decide
  exact each value small

theorem hexValue?_hexDigit {value : Nat} (small : value < 16) : hexValue? (hexDigit value) = some value := by
  have each : ∀ value < 16, hexValue? (hexDigit value) = some value := by decide
  exact each value small

theorem hexValue?_toLower (c : Char) : hexValue? c.toLower = hexValue? c :=
  of_capitals (by decide) c

private theorem lower_of_hexValue? {c : Char} {value : Nat} (valued : hexValue? c = some value) :
    value < 16 ∧ c.toLower = hexDigit value := by
  have within (low high : Char) : low ≤ c ∧ c ≤ high ↔ low.toNat ≤ c.toNat ∧ c.toNat ≤ high.toNat := by
    simp only [Char.le_def, UInt32.le_iff_toNat_le, Char.toNat]
  have codes (small : value < 16) (same : c.toLower.toNat = if value < 10 then 48 + value else 87 + value) :
      value < 16 ∧ c.toLower = hexDigit value :=
    ⟨small, Char.toNat_inj.mp (same.trans (toNat_hexDigit small).symm)⟩
  rw [toNat_toLower] at codes
  unfold hexValue? at valued
  split at valued
  next digit =>
    obtain ⟨low, high⟩ : 48 ≤ c.toNat ∧ c.toNat ≤ 57 := (within '0' '9').mp digit
    cases valued
    exact codes (by omega) (by rw [if_neg (by omega), if_pos (by omega)]; omega)
  split at valued
  next small =>
    obtain ⟨low, high⟩ : 97 ≤ c.toNat ∧ c.toNat ≤ 102 := (within 'a' 'f').mp small
    cases valued
    exact codes (by omega) (by rw [if_neg (by omega), if_neg (by omega)]; omega)
  split at valued
  next capital =>
    obtain ⟨low, high⟩ : 65 ≤ c.toNat ∧ c.toNat ≤ 70 := (within 'A' 'F').mp capital
    cases valued
    exact codes (by omega) (by rw [if_pos (by omega), if_neg (by omega)]; omega)
  next => cases valued

theorem hexValue?_eq_some_iff {c : Char} {value : Nat} :
    hexValue? c = some value ↔ value < 16 ∧ c.toLower = hexDigit value := by
  constructor
  · exact lower_of_hexValue?
  · rintro ⟨small, same⟩
    rw [← hexValue?_toLower, same, hexValue?_hexDigit small]

/-- A digit of base sixteen, in either case. -/
def IsHexDigit (c : Char) : Prop :=
  ∃ value < 16, c.toLower = hexDigit value

/-- Digits, in either case, of these values. -/
def HexDigits (values : List Nat) (digits : List Char) : Prop :=
  List.Forall₂ (fun value c => value < 16 ∧ c.toLower = hexDigit value) values digits

/-- The mark is no digit. -/
theorem HexDigits.unmarked {values : List Nat} {digits : List Char} : ¬HexDigits values ('0' :: 'x' :: digits) := by
  intro spelled
  obtain - | ⟨-, - | ⟨mark, -⟩⟩ := spelled
  have valued := hexValue?_eq_some_iff.mpr mark
  cases valued

private theorem hexNumberFrom?_eq_some_iff {digits : List Char} {value total : Nat} :
    hexNumberFrom? value digits = some total ↔ ∃ values, HexDigits values digits ∧
      16 ^ digits.length * value + Nat.ofDigits 16 values.reverse = total := by
  induction digits generalizing value with
  | nil =>
    simp only [hexNumberFrom?, HexDigits, List.forall₂_nil_right_iff, Option.some.injEq, exists_eq_left]
    simp
  | cons c rest ih =>
    have shifted (digit : Nat) {values : List Nat} (spelled : HexDigits values rest) :
        16 ^ rest.length * (16 * value + digit) + Nat.ofDigits 16 values.reverse =
          16 ^ (c :: rest).length * value + Nat.ofDigits 16 (digit :: values).reverse := by
      rw [ofDigits_reverse_cons, spelled.length_eq, List.length_cons]
      ring
    unfold hexNumberFrom?
    constructor
    · intro read
      split at read
      next digit valued =>
        obtain ⟨values, spelled, number⟩ := ih.mp read
        exact ⟨digit :: values, .cons (hexValue?_eq_some_iff.mp valued) spelled, (shifted digit spelled).symm.trans number⟩
      next => cases read
    · rintro ⟨values, spelled, number⟩
      cases spelled with
      | @cons digit _ values _ first spelled =>
        rw [hexValue?_eq_some_iff.mpr first]
        exact ih.mpr ⟨values, spelled, (shifted digit spelled).trans number⟩

theorem hexNumber?_eq_some_iff {digits : List Char} {number : Nat} :
    hexNumber? digits = some number ↔ ∃ values, HexDigits values digits ∧ Nat.ofDigits 16 values.reverse = number := by
  rw [hexNumber?, hexNumberFrom?_eq_some_iff, Nat.mul_zero]
  simp only [Nat.zero_add]

/-- As many digits hold a number as there are places for it. -/
theorem HexDigits.lt {values : List Nat} {digits : List Char} (spelled : HexDigits values digits) :
    Nat.ofDigits 16 values.reverse < 16 ^ digits.length := by
  induction spelled with
  | nil => decide
  | @cons value c values digits first spelled ih =>
    have places := Nat.mul_le_mul_left (16 ^ digits.length) (Nat.succ_le_of_lt first.1)
    rw [ofDigits_reverse_cons, spelled.length_eq, List.length_cons, Nat.pow_succ]
    rw [Nat.mul_succ] at places
    omega

theorem afterHexMark?_eq_some_iff {text digits : List Char} :
    afterHexMark? text = some digits ↔ ∃ mark, (mark = 'x' ∨ mark = 'X') ∧ text = '0' :: mark :: digits := by
  unfold afterHexMark?
  split
  next => simp
  next => simp
  next unmarked other =>
    simp only [reduceCtorEq, false_iff, not_exists, not_and]
    rintro mark (rfl | rfl) rfl
    · exact unmarked _ rfl
    · exact other _ rfl

/-- The two digits of a byte. -/
theorem hexChars_cons {high low : Nat} (first : high < 16) (second : low < 16) (bytes : Bytes) :
    hexChars (UInt8.ofNat (16 * high + low) :: bytes) = hexDigit high :: hexDigit low :: hexChars bytes := by
  have whole : (UInt8.ofNat (16 * high + low)).toNat = 16 * high + low := by
    rw [UInt8.toNat_ofNat']
    omega
  have quotient : (16 * high + low) / 16 = high := by omega
  have remainder : (16 * high + low) % 16 = low := by omega
  rw [hexChars, whole, quotient, remainder]

theorem length_hexChars (bytes : Bytes) : (hexChars bytes).length = 2 * bytes.length := by
  induction bytes with
  | nil => rfl
  | cons byte bytes ih =>
    rw [hexChars, List.length_cons, List.length_cons, ih, List.length_cons]
    omega

/-- Bytes are written in small letters. -/
theorem small_hexChars (bytes : Bytes) : small (hexChars bytes) = hexChars bytes := by
  have digit {value : Nat} (below : value < 16) : (hexDigit value).toLower = hexDigit value :=
    (hexValue?_eq_some_iff.mp (hexValue?_hexDigit below)).2
  induction bytes with
  | nil => rfl
  | cons byte bytes ih =>
    have room := byte.toNat_lt
    have first : (hexDigit (byte.toNat / 16)).toLower = hexDigit (byte.toNat / 16) := digit (by omega)
    have second : (hexDigit (byte.toNat % 16)).toLower = hexDigit (byte.toNat % 16) := digit (by omega)
    unfold small at ih
    rw [hexChars, small, List.map_cons, List.map_cons, first, second, ih]

theorem bytesOfHex?_eq_some_iff {digits : List Char} {bytes : Bytes} :
    bytesOfHex? digits = some bytes ↔ small digits = hexChars bytes := by
  induction digits using bytesOfHex?.induct generalizing bytes with
  | case1 => cases bytes <;> simp [bytesOfHex?, small, hexChars]
  | case2 => cases bytes <;> simp [bytesOfHex?, small, hexChars]
  | case3 high low rest ih =>
    constructor
    · intro read
      simp only [bytesOfHex?, Option.bind_eq_bind, Option.bind_eq_some_iff, Option.pure_def, Option.some.injEq] at read
      obtain ⟨first, leading, second, trailing, others, remaining, rfl⟩ := read
      obtain ⟨smallFirst, firstDigit⟩ := hexValue?_eq_some_iff.mp leading
      obtain ⟨smallSecond, secondDigit⟩ := hexValue?_eq_some_iff.mp trailing
      rw [hexChars_cons smallFirst smallSecond, ← firstDigit, ← secondDigit, ← ih.mp remaining]
      rfl
    · intro spelled
      cases bytes with
      | nil => cases spelled
      | cons byte bytes =>
        have room := byte.toNat_lt
        injection spelled with firstDigit rest
        injection rest with secondDigit rest
        have leading := hexValue?_eq_some_iff.mpr ⟨by omega, firstDigit⟩
        have trailing := hexValue?_eq_some_iff.mpr ⟨by omega, secondDigit⟩
        have whole : 16 * (byte.toNat / 16) + byte.toNat % 16 = byte.toNat := Nat.div_add_mod _ _
        rw [bytesOfHex?, leading, trailing, ih.mpr rest]
        simp only [Option.bind_eq_bind, Option.bind_some, Option.pure_def, whole, UInt8.ofNat_toNat]

/-- Every even number of digits spells bytes. -/
theorem exists_bytes {count : Nat} {digits : List Char} (size : digits.length = 2 * count)
    (each : ∀ c ∈ digits, IsHexDigit c) : ∃ bytes : Bytes, bytes.length = count ∧ small digits = hexChars bytes := by
  induction count generalizing digits with
  | zero =>
    rw [List.length_eq_zero_iff.mp size]
    exact ⟨[], rfl, rfl⟩
  | succ count ih =>
    obtain ⟨high, low, rest, rfl⟩ : ∃ high low rest, digits = high :: low :: rest := by
      match digits, size with
      | high :: low :: rest, _ => exact ⟨high, low, rest, rfl⟩
    obtain ⟨⟨first, smallFirst, firstDigit⟩, ⟨second, smallSecond, secondDigit⟩, others⟩ :=
      List.forall_mem_cons.mp each |>.imp_right List.forall_mem_cons.mp
    obtain ⟨bytes, length, spelled⟩ := ih (by simpa [Nat.mul_succ] using size) others
    refine ⟨UInt8.ofNat (16 * first + second) :: bytes, by rw [List.length_cons, length], ?_⟩
    rw [hexChars_cons smallFirst smallSecond, ← firstDigit, ← secondDigit, ← spelled]
    rfl

theorem isHexDigit_of_hexChars {digits : List Char} {bytes : Bytes} (spelled : small digits = hexChars bytes) :
    ∀ c ∈ digits, IsHexDigit c := by
  induction bytes generalizing digits with
  | nil =>
    rw [List.map_eq_nil_iff.mp spelled]
    exact List.forall_mem_nil _
  | cons byte bytes ih =>
    have room := byte.toNat_lt
    obtain ⟨high, digits, rfl, firstDigit, spelled⟩ := List.map_eq_cons_iff.mp spelled
    obtain ⟨low, digits, rfl, secondDigit, spelled⟩ := List.map_eq_cons_iff.mp spelled
    rw [List.forall_mem_cons, List.forall_mem_cons]
    exact ⟨⟨_, by omega, firstDigit⟩, ⟨_, by omega, secondDigit⟩, ih spelled⟩

end ChainScript.Text
