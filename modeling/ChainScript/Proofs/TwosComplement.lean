import ChainScript.Proofs.WordBytes

/-! Signed words against the integers they stand for. Reading gives the one integer of two's complement range with the
residue of the bytes, writing gives the residue, and the two undo each other just inside that range: beyond it, a number
comes back with whole turns of `2 ^ 256` added or taken away. -/

namespace ChainScript.SignedWord

theorem negative_iff (number : SignedWord) : number.negative = true ↔ number.toInt < 0 := by
  cases sign : number.negative with
  | true =>
    have some : number.magnitude.toNat ≠ 0 := fun none => number.negative_ne_zero sign (BitVec.eq_of_toNat_eq none)
    simp only [toInt, sign, if_true, true_iff]
    omega
  | false =>
    simp only [toInt, sign, Bool.false_eq_true, if_false, false_iff]
    omega

theorem toInt_ofBytes_eq_iff {bytes : Bytes} (size : bytes.length = 32) {value : Int} :
    (ofBytes bytes).toInt = value ↔
      (-2 ^ 255 ≤ value ∧ value < 2 ^ 255) ∧ value % 2 ^ 256 = numberOf bytes := by
  have room : ((2 ^ 256 : Nat) : Int) = 2 ^ 256 := rfl
  have below := numberOf_lt bytes
  rw [size] at below
  rw [toInt_ofBytes size]
  constructor
  · rintro rfl
    refine ⟨bmod_bounds _, ?_⟩
    rw [← room, Int.bmod_emod]
    omega
  · rintro ⟨⟨low, high⟩, residue⟩
    rw [← residue, ← room, Int.emod_bmod, bmod_of_range low high]

theorem toBytes_ofBytes {bytes : Bytes} (size : bytes.length = 32) : (ofBytes bytes).toBytes = bytes := by
  have residue : (numberOf (ofBytes bytes).toBytes : Int) = numberOf bytes := by
    rw [numberOf_toBytes]
    exact ((toInt_ofBytes_eq_iff size).mp rfl).2
  calc (ofBytes bytes).toBytes
      = bytesOf 32 (numberOf (ofBytes bytes).toBytes) := (bytesOf_numberOf (length_toBytes _)).symm
    _ = bytesOf 32 (numberOf bytes) := by rw [Int.natCast_inj.mp residue]
    _ = bytes := bytesOf_numberOf size

theorem ofBytes_toBytes_eq_self_iff (number : SignedWord) : ofBytes number.toBytes = number ↔ number.Ranged := by
  rw [ofBytes_toBytes]
  constructor
  · intro same
    exact same ▸ number.ranged_reduced
  · exact reduced_of_ranged

/-- A number beyond the range comes back another, a number of turns away. -/
theorem exists_turns {number : SignedWord} (beyond : ¬number.Ranged) :
    ∃ turns : Int, turns ≠ 0 ∧ (ofBytes number.toBytes).toInt = number.toInt + turns * 2 ^ 256 := by
  rw [ofBytes_toBytes]
  obtain ⟨turns, drift⟩ : ((2 ^ 256 : Nat) : Int) ∣ number.reduced.toInt - number.toInt := by
    rw [toInt_reduced]
    exact Int.dvd_bmod_sub_self
  refine ⟨turns, ?_, by omega⟩
  rintro rfl
  have same : number.reduced.toInt = number.toInt := by omega
  exact beyond (toInt_injective same ▸ number.ranged_reduced)

/-- The 32 bytes of a word are read as the integer from `-2 ^ 255` up to but not including `2 ^ 255` with their residue
modulo `2 ^ 256`, which is below zero just if its sign is set, and are written for it again. A magnitude below `2 ^ 256`
and a sign are written as the 32 bytes of the integer's residue; they are read back as the same number just inside that
range, and else as one that is some turns of `2 ^ 256` away. -/
theorem twos_complement_exact :
    (∀ word : Octets 32,
      let number := ofBytes word.toList
      (∀ value : Int, number.toInt = value ↔
        (-2 ^ 255 ≤ value ∧ value < 2 ^ 255) ∧ value % 2 ^ 256 = numberOf word.toList) ∧
      (number.negative = true ↔ number.toInt < 0) ∧ number.toBytes = word.toList) ∧
    ∀ (magnitude : Word) (below : Bool),
      let number := ofMagnitude magnitude below
      let ranged := -2 ^ 255 ≤ number.toInt ∧ number.toInt < 2 ^ 255
      number.toInt = (if below then -(magnitude.toNat : Int) else magnitude.toNat) ∧
      number.toBytes.length = 32 ∧ (numberOf number.toBytes : Int) = number.toInt % 2 ^ 256 ∧
      (ofBytes number.toBytes = number ↔ ranged) ∧
      (¬ranged → ∃ turns : Int, turns ≠ 0 ∧ (ofBytes number.toBytes).toInt = number.toInt + turns * 2 ^ 256) := by
  constructor
  · intro word number
    exact ⟨fun value => toInt_ofBytes_eq_iff word.length_toList, number.negative_iff, toBytes_ofBytes word.length_toList⟩
  · intro magnitude below number ranged
    exact ⟨toInt_ofMagnitude magnitude below, number.length_toBytes, number.numberOf_toBytes,
      number.ofBytes_toBytes_eq_self_iff, exists_turns⟩

/-- The least number comes back; its negation is written with the same bytes, and so does not. -/
theorem twos_complement_exact_least :
    let least := ofMagnitude (BitVec.ofNat 256 (2 ^ 255)) true
    let negated := ofMagnitude (BitVec.ofNat 256 (2 ^ 255)) false
    ofBytes least.toBytes = least ∧ ofBytes negated.toBytes ≠ negated ∧
      ∃ turns : Int, turns ≠ 0 ∧ (ofBytes negated.toBytes).toInt = negated.toInt + turns * 2 ^ 256 := by
  intro least negated
  obtain ⟨low, -, -, kept, -⟩ := twos_complement_exact.2 (BitVec.ofNat 256 (2 ^ 255)) true
  obtain ⟨high, -, -, lost, turned⟩ := twos_complement_exact.2 (BitVec.ofNat 256 (2 ^ 255)) false
  have beyond : ¬(-2 ^ 255 ≤ negated.toInt ∧ negated.toInt < 2 ^ 255) := by
    rw [high]
    decide
  refine ⟨kept.mpr ?_, fun same => beyond (lost.mp same), turned beyond⟩
  rw [low]
  decide

end ChainScript.SignedWord
