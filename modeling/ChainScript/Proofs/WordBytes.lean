import Mathlib.Algebra.Group.Int.Defs
import Mathlib.Algebra.Group.Nat.Defs
import ChainScript.Data.Word

/-! Bytes as base-256 digits, and the numbers that 32 of them stand for. Writing a number keeps its value modulo
the room there is, and a signed word comes back as the integer of two's complement range with the same residue. -/

namespace ChainScript

private theorem numberFrom_append (value : Nat) (first rest : Bytes) :
    numberFrom value (first ++ rest) = numberFrom (numberFrom value first) rest := by
  induction first generalizing value with
  | nil => rfl
  | cons byte first ih => exact ih (256 * value + byte.toNat)

private theorem numberFrom_eq (value : Nat) (bytes : Bytes) :
    numberFrom value bytes = 256 ^ bytes.length * value + numberOf bytes := by
  induction bytes generalizing value with
  | nil => simp [numberFrom, numberOf]
  | cons byte bytes ih =>
    have whole := ih (256 * value + byte.toNat)
    have own := ih byte.toNat
    simp only [numberOf, numberFrom, List.length_cons, Nat.pow_succ] at whole own ⊢
    rw [whole, Nat.mul_zero, Nat.zero_add, own, Nat.mul_add, Nat.mul_assoc]
    omega

theorem numberOf_cons (byte : UInt8) (bytes : Bytes) :
    numberOf (byte :: bytes) = 256 ^ bytes.length * byte.toNat + numberOf bytes := by
  have split := numberFrom_eq byte.toNat bytes
  simpa only [numberOf, numberFrom, Nat.mul_zero, Nat.zero_add] using split

theorem numberOf_concat (bytes : Bytes) (byte : UInt8) :
    numberOf (bytes ++ [byte]) = 256 * numberOf bytes + byte.toNat :=
  numberFrom_append 0 bytes [byte]

theorem numberOf_lt (bytes : Bytes) : numberOf bytes < 256 ^ bytes.length := by
  induction bytes with
  | nil => simp [numberOf, numberFrom]
  | cons byte bytes ih =>
    have small : byte.toNat + 1 ≤ 256 := byte.toNat_lt
    have room := Nat.mul_le_mul_left (256 ^ bytes.length) small
    rw [numberOf_cons, List.length_cons, Nat.pow_succ]
    rw [Nat.mul_add, Nat.mul_one] at room
    omega

/-- Writing keeps the value modulo the room. -/
theorem numberOf_bytesOf (count value : Nat) : numberOf (bytesOf count value) = value % 256 ^ count := by
  induction count generalizing value with
  | zero => simp [bytesOf, numberOf, numberFrom, Nat.mod_one]
  | succ count ih =>
    have digits : value % (256 * 256 ^ count) = value % 256 + 256 * (value / 256 % 256 ^ count) := Nat.mod_mul
    have room : 256 ^ (count + 1) = 256 * 256 ^ count := Nat.pow_succ'
    rw [bytesOf, numberOf_concat, ih, UInt8.toNat_ofNat', room, digits]
    exact Nat.add_comm _ _

theorem bytesOf_numberOf {count : Nat} {bytes : Bytes} (size : bytes.length = count) :
    bytesOf count (numberOf bytes) = bytes := by
  induction count generalizing bytes with
  | zero => rw [List.length_eq_zero_iff.mp size]; rfl
  | succ count ih =>
    obtain ⟨init, last, rfl⟩ : ∃ init last, bytes = init ++ [last] := by
      rcases List.eq_nil_or_concat bytes with rfl | ⟨init, last, rfl⟩
      · cases size
      · exact ⟨init, last, List.concat_eq_append⟩
    have shorter : init.length = count := by simpa using size
    have high : (256 * numberOf init + last.toNat) / 256 = numberOf init := by
      have := last.toNat_lt
      omega
    rw [numberOf_concat, bytesOf, high, ih shorter]
    congr 2
    apply UInt8.toNat_inj.mp
    rw [UInt8.toNat_ofNat']
    have := last.toNat_lt
    omega

theorem numberOf_zeros_append (count : Nat) (bytes : Bytes) :
    numberOf (List.replicate count 0 ++ bytes) = numberOf bytes := by
  induction count with
  | zero => rfl
  | succ count ih => simpa only [List.replicate_succ, List.cons_append, numberOf_cons, UInt8.toNat_zero,
      Nat.mul_zero, Nat.zero_add] using ih

private theorem leading_bit_iff (first : UInt8) (rest : Bytes) :
    128 ≤ first.toNat ↔ 128 * 256 ^ rest.length ≤ numberOf (first :: rest) := by
  have low := numberOf_lt rest
  rw [numberOf_cons]
  constructor
  · intro leading
    have := Nat.mul_le_mul_left (256 ^ rest.length) leading
    omega
  · intro large
    apply Classical.byContradiction
    intro small
    have := Nat.mul_le_mul_left (256 ^ rest.length) (show first.toNat + 1 ≤ 128 by omega)
    rw [Nat.mul_add, Nat.mul_one] at this
    omega

namespace Octets

theorem numberOf_ofNat (size value : Nat) : numberOf (ofNat size value).toList = value % 256 ^ size :=
  numberOf_bytesOf size value

/-- Zeros in front do not change the bytes that a number gives back. -/
theorem ofNat_numberOf {size : Nat} (octets : Octets size) (count : Nat) :
    ofNat size (numberOf (List.replicate count 0 ++ octets.toList)) = octets := by
  obtain ⟨bytes, length⟩ := octets
  simp only [ofNat, numberOf_zeros_append, bytesOf_numberOf length]

end Octets

namespace Word

theorem length_toBytes (word : Word) : word.toBytes.length = 32 :=
  length_bytesOf 32 word.toNat

theorem ofBytes_toBytes (word : Word) : ofBytes word.toBytes = word := by
  apply BitVec.eq_of_toNat_eq
  rw [ofBytes, toBytes, numberOf_bytesOf, BitVec.toNat_ofNat]
  have := word.isLt
  omega

end Word

namespace SignedWord

theorem toInt_injective {first second : SignedWord} (same : first.toInt = second.toInt) : first = second := by
  obtain ⟨magnitude, negative, nonzero⟩ := first
  obtain ⟨magnitude', negative', nonzero'⟩ := second
  have positive (word : Word) (differs : word ≠ 0) : 0 < word.toNat := by
    apply Nat.pos_of_ne_zero
    intro zero
    exact differs (BitVec.eq_of_toNat_eq zero)
  have equal : magnitude.toNat = magnitude'.toNat ∧ negative = negative' := by
    cases negative <;> cases negative' <;> simp only [toInt, if_true, Bool.false_eq_true, if_false] at same
    · exact ⟨by omega, rfl⟩
    · have := positive _ (nonzero' rfl)
      omega
    · have := positive _ (nonzero rfl)
      omega
    · exact ⟨by omega, rfl⟩
  obtain ⟨magnitudes, rfl⟩ := equal
  cases BitVec.eq_of_toNat_eq magnitudes
  rfl

theorem toInt_ofMagnitude (magnitude : Word) (below : Bool) :
    (ofMagnitude magnitude below).toInt = if below then -(magnitude.toNat : Int) else magnitude.toNat := by
  by_cases zero : magnitude = 0
  · subst zero
    cases below <;> rfl
  · cases below <;> simp only [toInt, ofMagnitude, zero, ne_eq, not_false_eq_true, decide_true, Bool.and_true]

private theorem toNat_negated (word : Word) : (~~~word + 1).toNat = (2 ^ 256 - word.toNat) % 2 ^ 256 := by
  have := word.isLt
  rw [BitVec.toNat_add, BitVec.toNat_not]
  have one : (1 : Word).toNat = 1 := rfl
  rw [one]
  congr 1
  omega

theorem bmod_bounds (value : Int) : -2 ^ 255 ≤ value.bmod (2 ^ 256) ∧ value.bmod (2 ^ 256) < 2 ^ 255 := by
  have low : -((2 ^ 256 : Nat) : Int) / 2 ≤ value.bmod (2 ^ 256) := Int.le_bmod (by decide)
  have high : value.bmod (2 ^ 256) < (((2 ^ 256 : Nat) : Int) + 1) / 2 := Int.bmod_lt (by decide)
  omega

theorem bmod_of_range {value : Int} (low : -2 ^ 255 ≤ value) (high : value < 2 ^ 255) :
    value.bmod (2 ^ 256) = value := by
  apply Int.bmod_eq_of_le
  · omega
  · omega

/-- The signed word of an integer whose magnitude fits a word. -/
def ofInt (value : Int) : SignedWord :=
  ofMagnitude (BitVec.ofNat 256 value.natAbs) (value < 0)

/-- The number of two's complement range, from `-2 ^ 255` up to but not including `2 ^ 255`, that is the same
modulo `2 ^ 256`. -/
def reduced (number : SignedWord) : SignedWord :=
  ofInt (number.toInt.bmod (2 ^ 256))

theorem toInt_ofInt {value : Int} (fits : value.natAbs < 2 ^ 256) : (ofInt value).toInt = value := by
  rw [ofInt, toInt_ofMagnitude, BitVec.toNat_ofNat, Nat.mod_eq_of_lt fits]
  by_cases negative : value < 0
  · simp only [negative, decide_true, if_true]
    omega
  · simp only [negative, decide_false, Bool.false_eq_true, if_false]
    omega

theorem toInt_reduced (number : SignedWord) : number.reduced.toInt = number.toInt.bmod (2 ^ 256) := by
  apply toInt_ofInt
  have := bmod_bounds number.toInt
  omega

theorem toInt_ofBytes {bytes : Bytes} (size : bytes.length = 32) :
    (ofBytes bytes).toInt = (numberOf bytes : Int).bmod (2 ^ 256) := by
  cases bytes with
  | nil => cases size
  | cons first rest =>
    have leading := leading_bit_iff first rest
    have below := numberOf_lt (first :: rest)
    rw [size] at below
    rw [show rest.length = 31 by simpa using size] at leading
    have value : (Word.ofBytes (first :: rest)).toNat = numberOf (first :: rest) := by
      rw [Word.ofBytes, BitVec.toNat_ofNat]
      omega
    simp only [ofBytes, Int.bmod]
    by_cases set : 128 ≤ first.toNat
    · rw [if_pos set, toInt_ofMagnitude, if_pos rfl, toNat_negated, value]
      have := leading.mp set
      split <;> omega
    · rw [if_neg set, toInt_ofMagnitude, if_neg Bool.false_ne_true, value]
      have := mt leading.mpr set
      split <;> omega

/-- The numbers that two's complement can hold. -/
def Ranged (number : SignedWord) : Prop :=
  -2 ^ 255 ≤ number.toInt ∧ number.toInt < 2 ^ 255

theorem reduced_of_ranged {number : SignedWord} (ranged : number.Ranged) : number.reduced = number := by
  apply toInt_injective
  rw [toInt_reduced, bmod_of_range ranged.1 ranged.2]

theorem ranged_reduced (number : SignedWord) : number.reduced.Ranged := by
  rw [Ranged, toInt_reduced]
  exact bmod_bounds number.toInt

theorem ranged_ofBytes {bytes : Bytes} (size : bytes.length = 32) : (ofBytes bytes).Ranged := by
  rw [Ranged, toInt_ofBytes size]
  exact bmod_bounds (numberOf bytes)

theorem toNat_toWord (number : SignedWord) : (number.toWord.toNat : Int) = number.toInt % 2 ^ 256 := by
  have := number.magnitude.isLt
  cases sign : number.negative with
  | true =>
    simp only [toWord, toInt, sign, if_true, toNat_negated]
    omega
  | false =>
    simp only [toWord, toInt, sign, Bool.false_eq_true, if_false]
    omega

theorem length_toBytes (number : SignedWord) : number.toBytes.length = 32 :=
  number.toWord.length_toBytes

/-- What is written is the number modulo the room of a word. -/
theorem numberOf_toBytes (number : SignedWord) : (numberOf number.toBytes : Int) = number.toInt % 2 ^ 256 := by
  have room : ((256 ^ 32 : Nat) : Int) = 2 ^ 256 := by decide
  rw [toBytes, Word.toBytes, numberOf_bytesOf, Int.natCast_emod, toNat_toWord, room,
    Int.emod_emod_of_dvd _ (Int.dvd_refl _)]

/-- A signed word that is written and read again is reduced to two's complement range. -/
theorem ofBytes_toBytes (number : SignedWord) : ofBytes number.toBytes = number.reduced := by
  apply toInt_injective
  rw [toInt_ofBytes number.length_toBytes, toInt_reduced, numberOf_toBytes]
  exact Int.emod_bmod ..

end SignedWord

end ChainScript
