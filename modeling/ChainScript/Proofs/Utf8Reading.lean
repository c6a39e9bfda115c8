import ChainScript.Text.Utf8

/-! Text survives being written as bytes. The reader is a machine over single bytes, so a character is followed
through its lead byte and the bytes that continue it. -/

namespace ChainScript.Text

variable {position : Nat} {rest : Bytes} {chars : List Char}

private theorem read_plain {c : Char} (small : c.toNat < 0x80)
    (after : utf8CharsFrom (position + 1) none rest = .ok chars) :
    utf8CharsFrom position none (UInt8.ofNat c.toNat :: rest) = .ok (c :: chars) := by
  have value : (UInt8.ofNat c.toNat).toNat = c.toNat := UInt8.toNat_ofNat_of_lt' (by change c.toNat < 256; omega)
  simp only [utf8CharsFrom, value, small, if_true, after, Char.ofNat_toNat]
  rfl

private theorem read_lead {code : Nat} {sequence : OpenSequence} {outcome : Except Utf8Fault (List Char)}
    (large : 0x80 ≤ code) (byte : code < 256) (opens : OpenSequence.ofLead? position code = some sequence)
    (after : utf8CharsFrom (position + 1) (some sequence) rest = outcome) :
    utf8CharsFrom position none (UInt8.ofNat code :: rest) = outcome := by
  have value : (UInt8.ofNat code).toNat = code := UInt8.toNat_ofNat_of_lt' byte
  simp only [utf8CharsFrom, value, Nat.not_lt.mpr large, if_false, opens, after]

private theorem read_middle {code start sound value low high more : Nat} {outcome : Except Utf8Fault (List Char)}
    (byte : code < 256) (inside : low ≤ code ∧ code ≤ high)
    (after : utf8CharsFrom (position + 1)
      (some ⟨start, sound + 1, 64 * value + (code - 0x80), 0x80, 0xBF, more⟩) rest = outcome) :
    utf8CharsFrom position (some ⟨start, sound, value, low, high, more + 1⟩) (UInt8.ofNat code :: rest) =
      outcome := by
  have number : (UInt8.ofNat code).toNat = code := UInt8.toNat_ofNat_of_lt' byte
  simp only [utf8CharsFrom, number, inside, and_self, if_true, after]

private theorem read_last {code start sound value low high : Nat} {c : Char}
    (byte : code < 256) (inside : low ≤ code ∧ code ≤ high) (spelled : 64 * value + (code - 0x80) = c.toNat)
    (after : utf8CharsFrom (position + 1) none rest = .ok chars) :
    utf8CharsFrom position (some ⟨start, sound, value, low, high, 0⟩) (UInt8.ofNat code :: rest) =
      .ok (c :: chars) := by
  have number : (UInt8.ofNat code).toNat = code := UInt8.toNat_ofNat_of_lt' byte
  simp only [utf8CharsFrom, number, inside, and_self, if_true, after, spelled, Char.ofNat_toNat]
  rfl

/-- One character is read back whole, and reading goes on behind it. -/
private theorem read_char (c : Char) (after : ∀ position, utf8CharsFrom position none rest = .ok chars) :
    utf8CharsFrom position none (String.utf8EncodeChar c ++ rest) = .ok (c :: chars) := by
  have code : c.val.toNat = c.toNat := rfl
  have scalar : c.toNat < 0xD800 ∨ 0xDFFF < c.toNat ∧ c.toNat < 0x110000 := c.valid
  simp only [String.utf8EncodeChar, code]
  by_cases one : c.toNat ≤ 0x7F
  · simp only [one, if_true, List.cons_append, List.nil_append]
    exact read_plain (by omega) (after _)
  by_cases two : c.toNat ≤ 0x7FF
  · simp only [one, two, if_true, if_false, List.cons_append, List.nil_append]
    apply read_lead (by omega) (by omega)
    · simp only [OpenSequence.ofLead?]
      rw [if_neg (by omega), if_pos (by omega)]
    · exact read_last (by omega) (by omega) (by omega) (after _)
  by_cases three : c.toNat ≤ 0xFFFF
  · simp only [one, two, three, if_true, if_false, List.cons_append, List.nil_append]
    apply read_lead (by omega) (by omega)
    · simp only [OpenSequence.ofLead?]
      rw [if_neg (by omega), if_neg (by omega), if_pos (by omega)]
    · apply read_middle (by omega)
      · constructor
        · split <;> omega
        · split <;> omega
      · exact read_last (by omega) (by omega) (by omega) (after _)
  · simp only [one, two, three, if_false, List.cons_append, List.nil_append]
    apply read_lead (by omega) (by omega)
    · simp only [OpenSequence.ofLead?]
      rw [if_neg (by omega), if_neg (by omega), if_neg (by omega), if_pos (by omega)]
    · apply read_middle (by omega)
      · constructor
        · split <;> omega
        · split <;> omega
      · apply read_middle (by omega) (by omega)
        exact read_last (by omega) (by omega) (by omega) (after _)

theorem utf8CharsFrom_flatMap (position : Nat) (chars : List Char) :
    utf8CharsFrom position none (chars.flatMap String.utf8EncodeChar) = .ok chars := by
  induction chars generalizing position with
  | nil => rfl
  | cons c chars ih => exact read_char c ih

/-- The bytes of a text spell that text. -/
theorem ofUtf8_utf8 (text : String) : ofUtf8 (utf8 text) = .ok text := by
  rw [ofUtf8, utf8, utf8CharsFrom_flatMap]
  exact congrArg Except.ok String.ofList_toList

end ChainScript.Text
