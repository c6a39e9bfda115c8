import ChainScript.Proofs.AbiPlacement
import ChainScript.Proofs.AbiReading
import ChainScript.Proofs.AbiWriting
import ChainScript.Proofs.Utf8Reading

/-! Reading back what was written. Every value is followed from the position where its bytes stand inside the
data; the offsets of a sequence lead to its tails because heads and tails are tracked together. The one thing that
does not come back is an array with more items than the data has bytes, which is written only if its items take
up no room. -/

namespace ChainScript.Abi
open AbiType

/-- Reading gives the value if a condition holds, and finds a count out of range if it does not. -/
structure Yields {α : Type} (condition : Prop) (value : α) (outcome : Except DecodeFault α) : Prop where
  reads : condition → outcome = .ok value
  refuses : ¬ condition → ∃ count, outcome = .error (.outOfRange count)

namespace Yields

variable {α β : Type} {condition other : Prop} {value : α} {outcome : Except DecodeFault α}

theorem of_ok (read : outcome = .ok value) : Yields True value outcome :=
  ⟨fun _ => read, fun impossible => absurd trivial impossible⟩

theorem congr (yields : Yields condition value outcome) (same : condition ↔ other) :
    Yields other value outcome :=
  ⟨fun holds => yields.reads (same.mpr holds), fun fails => yields.refuses (mt same.mp fails)⟩

theorem map (yields : Yields condition value outcome) (f : α → β) :
    Yields condition (f value) (f <$> outcome) := by
  constructor
  · intro holds
    rw [yields.reads holds]
    rfl
  · intro fails
    obtain ⟨count, refused⟩ := yields.refuses fails
    exact ⟨count, by rw [refused]; rfl⟩

theorem cons {values : List α} {outcomes : Except DecodeFault (List α)} (first : Yields condition value outcome)
    (rest : Yields other values outcomes) :
    Yields (condition ∧ other) (value :: values) (do
      let value ← outcome
      let values ← outcomes
      return value :: values) := by
  constructor
  · intro ⟨holds, holdsRest⟩
    rw [first.reads holds, rest.reads holdsRest]
    rfl
  · intro fails
    by_cases holds : condition
    · obtain ⟨count, refused⟩ := rest.refuses (fun holdsRest => fails ⟨holds, holdsRest⟩)
      exact ⟨count, by rw [first.reads holds, refused]; rfl⟩
    · obtain ⟨count, refused⟩ := first.refuses holds
      exact ⟨count, by rw [refused]; rfl⟩

end Yields

/-- Items that take up room are no more than the bytes of the data, whatever their count says. -/
private theorem width_eq_zero_of_crowded {width count limit : Nat} (room : width * count ≤ limit)
    (many : limit < count) : width = 0 := by
  apply Nat.eq_zero_of_not_pos
  intro positive
  have := Nat.le_mul_of_pos_left count positive
  omega

section
variable {data : Bytes} (short : data.length < UInt64.size)
include short

/-- The offset of a dynamic member leads to its bytes, which stand among the tails. -/
private theorem throughOffset_of_holds {read : Nat → Except DecodeFault AbiValue} {base offset position : Nat}
    (word : Holds data position (bytesOf 32 offset)) (inside : base + offset ≤ data.length) :
    throughOffset data read base position = read (base + offset) := by
  have fits : offset < 256 ^ 32 := Nat.lt_of_lt_of_le (Nat.lt_of_le_of_lt (by omega) short) (by decide)
  rw [throughOffset, readSize_of_holds short word fits, if_pos (by omega), ok_bind,
    advance_eq_ok (Nat.lt_of_le_of_lt inside short), ok_bind]

mutual
private theorem decodeValue_yields {type : AbiType} {value : AbiValue} {bytes : Bytes} {position : Nat}
    (fits : Shaped fitting type value) (made : encodeValue type value = .ok bytes)
    (holds : Holds data position bytes) (counted : Counted (UInt64.size - 1) type value) :
    Yields (Counted data.length type value) (canonical type value) (decodeValue data type position) := by
  cases fits with
  | address account =>
    rw [← Except.ok.inj made] at holds
    have size : (List.replicate 12 0 ++ account.toList).length = 32 := by
      rw [List.length_append, List.length_replicate, account.length_toList]
    apply Yields.of_ok
    rw [decodeValue, readWord_of_holds short holds size, ok_bind, Octets.ofNat_numberOf]
    rfl
  | uint bits word =>
    rw [← Except.ok.inj made] at holds
    apply Yields.of_ok
    rw [decodeValue, readWord_of_holds short holds word.length_toBytes, ok_bind, Word.ofBytes_toBytes]
    rfl
  | @int bits number allowed =>
    rw [← Except.ok.inj made] at holds
    apply Yields.of_ok
    rw [decodeValue, readWord_of_holds short holds number.length_toBytes, ok_bind, SignedWord.ofBytes_toBytes]
    rfl
  | bool set =>
    rw [← Except.ok.inj made] at holds
    apply Yields.of_ok
    rw [decodeValue, readWord_of_holds short holds (length_bytesOf 32 _), ok_bind, bytesOf, List.getLastD_concat]
    cases set <;> rfl
  | bytes content =>
    rw [← Except.ok.inj made] at holds
    apply Yields.of_ok
    rw [decodeValue, readBytes_of_holds short holds]
    rfl
  | @fixedBytes width content allowed =>
    obtain ⟨narrow, word⟩ := allowed
    rw [encodeValue, if_pos narrow] at made
    rw [← Except.ok.inj made] at holds
    have size : (content ++ List.replicate (32 - content.length) 0).length = 32 := by
      rw [List.length_append, List.length_replicate]
      omega
    have cut : min (width - content.length) (32 - content.length) = width - content.length := by omega
    apply Yields.of_ok
    rw [decodeValue, readWord_of_holds short holds size, ok_bind, if_pos word, List.take_append,
      List.take_of_length_le narrow, List.take_replicate, cut]
    rfl
  | string content =>
    rw [← Except.ok.inj made] at holds
    apply Yields.of_ok
    rw [decodeValue, readBytes_of_holds short holds, ok_bind, Text.ofUtf8_utf8]
    rfl
  | @array element items each =>
    obtain ⟨parts, written, rfl⟩ := encodeArray_eq_ok.mp made
    have placed := holds.right
    rw [length_bytesOf] at placed
    have width := length_heads_of_parts each written (element.headWidth * items.length)
    rw [headWidths_replicate] at width
    have tails := placed.right
    have room := placed.left.le
    rw [width] at tails room
    have crowded : data.length < items.length → element.headWidth = 0 :=
      width_eq_zero_of_crowded (by omega)
    have fits : items.length < 256 ^ 32 := by
      apply Nat.lt_of_lt_of_le (m := UInt64.size) _ (by decide)
      by_cases many : data.length < items.length
      · have := counted.1 (crowded many)
        omega
      · omega
    rw [decodeArray_eq, readSize_of_holds short holds.left fits]
    by_cases few : items.length ≤ data.length
    · rw [if_pos few, ok_bind, advance_eq_ok (by omega), ok_bind]
      have each := (decodeMembers_yields each written placed.left tails counted.2).map AbiValue.array
      exact each.congr ⟨fun inner => ⟨fun _ => few, inner⟩, And.right⟩
    · rw [if_neg few]
      exact ⟨fun all => absurd (all.1 (crowded (by omega))) few, fun _ => ⟨items.length, rfl⟩⟩
  | @fixedArray element size items count each =>
    obtain ⟨_, parts, written, rfl⟩ := encodeFixedArray_eq_ok.mp made
    subst count
    rw [decodeFixedArray_eq]
    have width := length_heads_of_parts each written (element.headWidth * items.length)
    rw [headWidths_replicate] at width
    have tails := holds.right
    rw [width] at tails
    exact (decodeMembers_yields each written holds.left tails counted).map AbiValue.fixedArray
  | @tuple types members each =>
    obtain ⟨_, parts, written, rfl⟩ := encodeTuple_eq_ok.mp made
    rw [decodeTuple_eq]
    have width := length_heads_of_parts each written (headWidths types)
    have tails := holds.right
    rw [width] at tails
    exact (decodeMembers_yields each written holds.left tails counted).map AbiValue.tuple
termination_by structural value

private theorem decodeMembers_yields {types : List AbiType} {values : List AbiValue} {parts : List Part}
    {base position offset : Nat} (fits : FitAll types values) (made : encodeParts types values = .ok parts)
    (heads : Holds data position (headsAndTails offset parts).1)
    (tails : Holds data (base + offset) (headsAndTails offset parts).2)
    (counted : CountedAll (UInt64.size - 1) types values) :
    Yields (CountedAll data.length types values) (canonicalAll types values)
      (decodeMembers data base types position) := by
  cases fits with
  | nil => exact .of_ok rfl
  | @cons type types value values first rest =>
    obtain ⟨bytes, others, own, written, rfl⟩ := encodeParts_cons_eq_ok.mp made
    rw [decodeMembers_cons]
    cases dynamic : type.isDynamic with
    | true =>
      simp only [headsAndTails, dynamic, if_true] at heads tails
      have inside := tails.left.le
      rw [slot_of_dynamic data base dynamic, throughOffset_of_holds short heads.left (by omega)]
      have remaining := tails.right
      rw [Nat.add_assoc] at remaining
      have next := heads.right
      rw [length_bytesOf, ← headWidth_of_dynamic dynamic] at next
      exact .cons (decodeValue_yields first own tails.left counted.1)
        (decodeMembers_yields rest written next remaining counted.2)
    | false =>
      simp only [headsAndTails, dynamic, Bool.false_eq_true, if_false] at heads tails
      rw [slot_of_static data base dynamic]
      have next := heads.right
      rw [length_of_static first own dynamic] at next
      exact .cons (decodeValue_yields first own heads.left counted.1)
        (decodeMembers_yields rest written next tails counted.2)
termination_by structural values
end

/-- A whole sequence, written and read back. -/
theorem decode_yields {types : List AbiType} {values : List AbiValue} (fits : FitAll types values)
    (made : encode types values = .ok data) (countable : CountedAll (UInt64.size - 1) types values) :
    Yields (CountedAll data.length types values) (canonicalAll types values) (decode types data) := by
  obtain ⟨_, parts, written, rfl⟩ := encode_eq_ok.mp made
  have holds := holds_self (assemble (headWidths types) parts)
  have tails := Holds.right holds
  rw [length_heads_of_parts fits written] at tails
  exact decodeMembers_yields short fits written (Holds.left holds) tails countable

end

/-- Where the items of arrays take up room, whatever is written comes back in its canonical form. -/
theorem decode_of_encode {types : List AbiType} {values : List AbiValue} {data : Bytes}
    (narrow : EveryAll Narrow types) (roomy : EveryAll Roomy types) (made : encode types values = .ok data)
    (short : data.length < UInt64.size) : decode types data = .ok (canonicalAll types values) := by
  obtain ⟨count, parts, written, _⟩ := encode_eq_ok.mp made
  have fits := fitAll_of_encodeParts narrow count written
  have counted (limit : Nat) := countedAll_of_roomy limit fits roomy
  exact (decode_yields short fits made (counted _)).reads (counted _)

/-- Reading undoes writing up to the canonical form, unless an array whose items take up no room has more of them
than the data has bytes; then the data is refused. Fixed bytes must fit into a word, the data must be addressable
by 64 bits, and so must be the items of each such array. -/
theorem decode_encode_iff {types : List AbiType} {values : List AbiValue} {data : Bytes}
    (narrow : EveryAll Narrow types) (made : encode types values = .ok data) (short : data.length < UInt64.size)
    (countable : CountedAll (UInt64.size - 1) types values) :
    (decode types data = .ok (canonicalAll types values) ↔ CountedAll data.length types values) ∧
      (¬ CountedAll data.length types values → ∃ count, decode types data = .error (.outOfRange count)) ∧
      (ExactAll types values → (decode types data = .ok values ↔ CountedAll data.length types values)) := by
  obtain ⟨count, parts, written, _⟩ := encode_eq_ok.mp made
  have yields := decode_yields short (fitAll_of_encodeParts narrow count written) made countable
  have exactly : decode types data = .ok (canonicalAll types values) ↔ CountedAll data.length types values := by
    refine ⟨fun read => ?_, yields.reads⟩
    apply Classical.byContradiction
    intro crowded
    obtain ⟨count, refused⟩ := yields.refuses crowded
    rw [refused] at read
    cases read
  refine ⟨exactly, yields.refuses, fun canonical => ?_⟩
  rwa [canonicalAll_of_exact canonical] at exactly

set_option maxRecDepth 2000 in
/-- Two items without room come back, and fixed bytes are filled up; a hundred such items are refused. -/
theorem decode_encode_units :
    decode [.array (.tuple []), .fixedBytes 2] (bytesOf 32 64 ++ 7 :: List.replicate 31 0 ++ bytesOf 32 2) =
        .ok [.array [.tuple [], .tuple []], .fixedBytes [7, 0]] ∧
      ∃ count, decode [.array (.tuple [])] (bytesOf 32 32 ++ bytesOf 32 100) = .error (.outOfRange count) := by
  constructor
  · have both := @decode_encode_iff [.array (.tuple []), .fixedBytes 2]
      [.array [.tuple [], .tuple []], .fixedBytes [7]] (bytesOf 32 64 ++ 7 :: List.replicate 31 0 ++ bytesOf 32 2)
      (by simp [EveryAll, Every, Narrow]) rfl (by simp [length_bytesOf, UInt64.size])
      (by simp [CountedAll, Counted, UInt64.size])
    exact both.1.mpr (by simp [CountedAll, Counted, length_bytesOf])
  · have both := @decode_encode_iff [.array (.tuple [])] [.array (List.replicate 100 (.tuple []))]
      (bytesOf 32 32 ++ bytesOf 32 100) (by simp [EveryAll, Every, Narrow]) rfl
      (by simp [length_bytesOf, UInt64.size]) (by simp [CountedAll, Counted, UInt64.size])
    exact both.2.1 (by simp [CountedAll, Counted, length_bytesOf, headWidth, anyDynamic, headWidths])

end ChainScript.Abi
