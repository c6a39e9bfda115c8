import ChainScript.Proofs.AbiPlacement
import ChainScript.Proofs.AbiWriting

/-! Where the bytes of a sequence stand. Each head stands behind the heads before it and takes up what its type tells;
the dynamic parts follow all heads in order, without a gap; and the offset in the head of a dynamic part leads to the
part, since the parts before it are as long as the offset counts. Every part fills whole words. -/

namespace ChainScript.Abi
open AbiType

/-- What stands among the heads for a part whose tail would start at the offset. -/
def Part.head (offset : Nat) (part : Part) : Bytes :=
  if part.dynamic then bytesOf 32 offset else part.bytes

/-- What stands behind the heads for a part. -/
def Part.tail (part : Part) : Bytes :=
  if part.dynamic then part.bytes else []

def tails (parts : List Part) : Bytes :=
  parts.flatMap Part.tail

theorem tails_cons (part : Part) (rest : List Part) : tails (part :: rest) = part.tail ++ tails rest :=
  List.flatMap_cons

theorem tails_append (first rest : List Part) : tails (first ++ rest) = tails first ++ tails rest :=
  List.flatMap_append

theorem headsAndTails_cons (offset : Nat) (part : Part) (rest : List Part) :
    (headsAndTails offset (part :: rest)).1 =
        part.head offset ++ (headsAndTails (offset + part.tail.length) rest).1 ∧
      (headsAndTails offset (part :: rest)).2 = part.tail ++ (headsAndTails (offset + part.tail.length) rest).2 := by
  cases dynamic : part.dynamic with
  | true => simp only [headsAndTails, Part.head, Part.tail, dynamic, if_true, and_self]
  | false => simp only [headsAndTails, Part.head, Part.tail, dynamic, Bool.false_eq_true, if_false, List.length_nil,
      Nat.add_zero, List.nil_append, and_self]

theorem tails_eq_flatten (parts : List Part) : tails parts = ((parts.filter Part.dynamic).map Part.bytes).flatten := by
  induction parts with
  | nil => rfl
  | cons part rest ih =>
    rw [tails_cons, ih, List.filter_cons, Part.tail]
    split
    · rfl
    · rfl

theorem length_tails (parts : List Part) :
    (tails parts).length = ((parts.filter Part.dynamic).map (·.bytes.length)).sum := by
  rw [tails_eq_flatten, List.length_flatten, List.map_map]
  rfl

/-- The tails do not depend on the offset. -/
theorem tails_eq (offset : Nat) (parts : List Part) : (headsAndTails offset parts).2 = tails parts := by
  induction parts generalizing offset with
  | nil => rfl
  | cons part rest ih => rw [(headsAndTails_cons offset part rest).2, ih, tails_cons]

theorem heads_append (offset : Nat) (first rest : List Part) :
    (headsAndTails offset (first ++ rest)).1 =
      (headsAndTails offset first).1 ++ (headsAndTails (offset + (tails first).length) rest).1 := by
  induction first generalizing offset with
  | nil => rfl
  | cons part first ih =>
    rw [List.cons_append, (headsAndTails_cons offset part _).1, (headsAndTails_cons offset part _).1, ih,
      List.append_assoc, tails_cons, List.length_append, Nat.add_assoc]

theorem assemble_eq (width : Nat) (parts : List Part) :
    assemble width parts = (headsAndTails width parts).1 ++ tails parts := by
  rw [← tails_eq width]
  rfl

theorem length_assemble (width : Nat) (parts : List Part) :
    (assemble width parts).length = (parts.map Part.headWidth).sum + (tails parts).length := by
  rw [assemble_eq, List.length_append, length_heads]

section
variable {parts : List Part} {index : Nat} {part : Part}

private theorem part_at (found : parts[index]? = some part) : ∃ after, parts = parts.take index ++ part :: after := by
  obtain ⟨within, rfl⟩ := List.getElem?_eq_some_iff.mp found
  exact ⟨parts.drop (index + 1), by rw [List.getElem_cons_drop, List.take_append_drop]⟩

theorem holds_head (found : parts[index]? = some part) (width : Nat) :
    Holds (assemble width parts) ((parts.take index).map Part.headWidth).sum
      (part.head (width + (tails (parts.take index)).length)) := by
  obtain ⟨after, split⟩ := part_at found
  generalize parts.take index = before at split ⊢
  have bytes : assemble width parts = (headsAndTails width before).1 ++
      (part.head (width + (tails before).length) ++
        (headsAndTails (width + (tails before).length + part.tail.length) after).1) ++ tails parts := by
    rw [assemble_eq, split, heads_append, (headsAndTails_cons _ part after).1]
  rw [bytes, ← length_heads width, ← Nat.zero_add (headsAndTails width before).1.length]
  exact (holds_self _).left.right.left

theorem holds_tail (found : parts[index]? = some part) (width : Nat) :
    Holds (assemble width parts) ((parts.map Part.headWidth).sum + (tails (parts.take index)).length) part.tail := by
  obtain ⟨after, split⟩ := part_at found
  generalize parts.take index = before at split ⊢
  have behind : tails parts = tails before ++ (part.tail ++ tails after) := by
    rw [split, tails_append, tails_cons]
  rw [assemble_eq, behind, ← length_heads width, ← Nat.zero_add (headsAndTails width parts).1.length]
  exact (holds_self _).right.right.left

end

/-- Everything that is written fills whole words. -/
theorem aligned_assemble {parts : List Part} (aligned : ∀ part ∈ parts, 32 ∣ part.bytes.length) (width : Nat) :
    32 ∣ (assemble width parts).length := by
  rw [length_assemble]
  induction parts with
  | nil => exact Nat.dvd_zero 32
  | cons part rest ih =>
    have own := aligned part List.mem_cons_self
    have others := ih fun other member => aligned other (List.mem_cons_of_mem _ member)
    rw [List.map_cons, List.sum_cons, tails_cons, List.length_append, Part.headWidth, Part.tail]
    cases part.dynamic with
    | true => simp only [if_true]; omega
    | false => simp only [Bool.false_eq_true, if_false, List.length_nil]; omega

theorem aligned_padded (content : Bytes) : 32 ∣ (padded content).length := by
  simp only [padded, List.length_append, length_bytesOf, List.length_replicate]
  omega

mutual
theorem aligned_of_value {type : AbiType} {value : AbiValue} {bytes : Bytes} (fits : Shaped fitting type value)
    (made : encodeValue type value = .ok bytes) : 32 ∣ bytes.length := by
  cases fits with
  | address | uint | int | bool | fixedBytes =>
    rw [length_of_static (by constructor <;> assumption) made rfl]
    exact Nat.dvd_refl 32
  | bytes content =>
    rw [← Except.ok.inj made]
    exact aligned_padded content
  | string content =>
    rw [← Except.ok.inj made]
    exact aligned_padded (Text.utf8 content)
  | array each =>
    obtain ⟨parts, written, rfl⟩ := encodeArray_eq_ok.mp made
    rw [List.length_append, length_bytesOf]
    exact Nat.dvd_add (Nat.dvd_refl 32) (aligned_assemble (aligned_of_parts each written) _)
  | fixedArray count each =>
    obtain ⟨_, parts, written, rfl⟩ := encodeFixedArray_eq_ok.mp made
    exact aligned_assemble (aligned_of_parts each written) _
  | tuple each =>
    obtain ⟨_, parts, written, rfl⟩ := encodeTuple_eq_ok.mp made
    exact aligned_assemble (aligned_of_parts each written) _
termination_by structural value

theorem aligned_of_parts {types : List AbiType} {values : List AbiValue} {parts : List Part}
    (fits : FitAll types values) (made : encodeParts types values = .ok parts) :
    ∀ part ∈ parts, 32 ∣ part.bytes.length := by
  cases fits with
  | nil =>
    cases made
    exact fun part member => nomatch member
  | cons first rest =>
    obtain ⟨bytes, others, own, written, rfl⟩ := encodeParts_cons_eq_ok.mp made
    intro part member
    rcases List.mem_cons.mp member with rfl | member
    · exact aligned_of_value first own
    · exact aligned_of_parts rest written part member
termination_by structural values
end

section
variable {types : List AbiType} {values : List AbiValue} {parts : List Part}

theorem encodings_of_parts (fits : FitAll types values) (made : encodeParts types values = .ok parts) :
    List.zipWith encodeValue types values = parts.map (fun part => .ok part.bytes) ∧
      parts.map Part.dynamic = types.map isDynamic := by
  induction types generalizing values parts with
  | nil => cases fits; cases made; exact ⟨rfl, rfl⟩
  | cons type types ih =>
    cases fits with
    | cons first rest =>
      obtain ⟨bytes, others, own, written, rfl⟩ := encodeParts_cons_eq_ok.mp made
      obtain ⟨encodings, kinds⟩ := ih rest written
      exact ⟨by rw [List.zipWith_cons_cons, own, encodings]; rfl, by rw [List.map_cons, kinds]; rfl⟩

/-- Each head takes up the room that its type tells. -/
theorem headWidth_of_parts (fits : FitAll types values) (made : encodeParts types values = .ok parts) :
    parts.map Part.headWidth = types.map headWidth := by
  induction types generalizing values parts with
  | nil => cases fits; cases made; rfl
  | cons type types ih =>
    cases fits with
    | cons first rest =>
      obtain ⟨bytes, others, own, written, rfl⟩ := encodeParts_cons_eq_ok.mp made
      rw [List.map_cons, List.map_cons, ih rest written, Part.headWidth]
      cases dynamic : type.isDynamic with
      | true => rw [if_pos rfl, headWidth_of_dynamic dynamic]
      | false => rw [if_neg Bool.false_ne_true, length_of_static first own dynamic]

theorem headWidths_eq (types : List AbiType) : headWidths types = (types.map headWidth).sum := by
  induction types with
  | nil => rfl
  | cons type types ih => rw [headWidths, ih, List.map_cons, List.sum_cons]

variable {index : Nat}

/-- The heads in front of a part take up what the types in front of its type tell. -/
theorem start_of_part (fits : FitAll types values) (made : encodeParts types values = .ok parts) (index : Nat) :
    ((parts.take index).map Part.headWidth).sum = headWidths (types.take index) := by
  rw [List.map_take, headWidth_of_parts fits made, headWidths_eq, List.map_take]

theorem kind_of_part (fits : FitAll types values) (made : encodeParts types values = .ok parts) {type : AbiType}
    {part : Part} (declared : types[index]? = some type) (found : parts[index]? = some part) :
    part.dynamic = type.isDynamic ∧ part.headWidth = type.headWidth := by
  have kinds := congrArg (·[index]?) (encodings_of_parts fits made).2
  have widths := congrArg (·[index]?) (headWidth_of_parts fits made)
  simp only [List.getElem?_map, declared, found, Option.map_some, Option.some.injEq] at kinds widths
  exact ⟨kinds, widths⟩

end

/-- The bytes of a sequence stand where its types tell and where the offsets among them tell. -/
structure LaidOut (types : List AbiType) (parts : List Part) (data : Bytes) : Prop where
  words : 32 ∣ data.length
  length : data.length = headWidths types + ((parts.filter Part.dynamic).map (·.bytes.length)).sum
  /-- Only the dynamic parts follow the heads, in order. -/
  behind : data.drop (headWidths types) = ((parts.filter Part.dynamic).map Part.bytes).flatten
  static : ∀ (index : Nat) (type : AbiType) (part : Part), types[index]? = some type → parts[index]? = some part →
    type.isDynamic = false →
      part.bytes.length = type.headWidth ∧ Holds data (headWidths (types.take index)) part.bytes
  /-- The head is the offset of the part, which counts the dynamic parts in front of it. -/
  dynamic : ∀ (index : Nat) (type : AbiType) (part : Part), types[index]? = some type → parts[index]? = some part →
    type.isDynamic = true →
      type.headWidth = 32 ∧ ∃ head, head.length = 32 ∧ Holds data (headWidths (types.take index)) head ∧
        Holds data (numberOf head) part.bytes ∧
        numberOf head = headWidths types + (((parts.take index).filter Part.dynamic).map (·.bytes.length)).sum

theorem laidOut_of_parts {types : List AbiType} {values : List AbiValue} {parts : List Part}
    (fits : FitAll types values) (made : encodeParts types values = .ok parts)
    (short : (assemble (headWidths types) parts).length < UInt64.size) :
    LaidOut types parts (assemble (headWidths types) parts) := by
  have total : (parts.map Part.headWidth).sum = headWidths types := widths_of_parts fits made
  refine ⟨aligned_assemble (aligned_of_parts fits made) _, ?_, ?_, ?_, ?_⟩
  · rw [length_assemble, total, length_tails]
  · rw [assemble_eq, ← tails_eq_flatten]
    exact List.drop_left' (length_heads_of_parts fits made _)
  · intro index type part declared found static
    obtain ⟨kind, width⟩ := kind_of_part fits made declared found
    have head := holds_head found (headWidths types)
    rw [static] at kind
    rw [Part.headWidth, kind, if_neg Bool.false_ne_true] at width
    rw [start_of_part fits made, Part.head, kind, if_neg Bool.false_ne_true] at head
    exact ⟨width, head⟩
  · intro index type part declared found dynamic
    obtain ⟨kind, _⟩ := kind_of_part fits made declared found
    rw [dynamic] at kind
    have head := holds_head found (headWidths types)
    have tail := holds_tail found (headWidths types)
    rw [start_of_part fits made, Part.head, if_pos kind] at head
    rw [total, Part.tail, if_pos kind] at tail
    -- The part stands inside the data, so the word has room for its offset.
    have fits : headWidths types + (tails (parts.take index)).length < 256 ^ 32 := by
      have inside := tail.le
      exact Nat.lt_of_lt_of_le (Nat.lt_of_le_of_lt (by omega) short) (by decide)
    have offset := numberOf_bytesOf 32 (headWidths types + (tails (parts.take index)).length)
    rw [Nat.mod_eq_of_lt fits] at offset
    refine ⟨headWidth_of_dynamic dynamic, _, length_bytesOf 32 _, head, ?_, ?_⟩
    · rwa [offset]
    · rw [offset, length_tails]

/-- What is written for values is laid out as their types tell: whole words; the heads in order, each of the width of its
type; behind them the dynamic values in order, without a gap; and in the head of each dynamic value the offset that leads
to it. Fixed bytes must fit into a word, and the data must be addressable by 64 bits. -/
theorem layout_of_encode {types : List AbiType} {values : List AbiValue} {data : Bytes}
    (narrow : EveryAll Narrow types) (made : encode types values = .ok data) (short : data.length < UInt64.size) :
    types.length = values.length ∧ ∃ parts : List Part,
      List.zipWith encodeValue types values = parts.map (fun part => .ok part.bytes) ∧
      parts.map Part.dynamic = types.map isDynamic ∧ LaidOut types parts data := by
  obtain ⟨count, parts, written, rfl⟩ := encode_eq_ok.mp made
  have fits : FitAll types values := fitAll_of_encodeParts narrow count written
  obtain ⟨encodings, kinds⟩ := encodings_of_parts fits written
  exact ⟨count, parts, encodings, kinds, laidOut_of_parts fits written short⟩

/-- A pair stands between the offsets of an array and of a byte string, which stand behind all three heads. -/
theorem layout_of_encode_mixed :
    let types : List AbiType := [.array (.uint 256), .tuple [.bool, .fixedBytes 2], .bytes]
    let values : List AbiValue := [.array [.uint 7], .tuple [.bool true, .fixedBytes [5]], .bytes [8, 9]]
    let items : Bytes := bytesOf 32 1 ++ bytesOf 32 7
    let pair : Bytes := bytesOf 32 1 ++ 5 :: List.replicate 31 0
    let data : Bytes := bytesOf 32 128 ++ pair ++ bytesOf 32 192 ++ items ++ padded [8, 9]
    encode types values = .ok data ∧ ∃ parts : List Part,
      List.zipWith encodeValue types values = parts.map (fun part => .ok part.bytes) ∧ LaidOut types parts data := by
  intro types values items pair data
  have parts : encodeParts types values = .ok [⟨true, items⟩, ⟨false, pair⟩, ⟨true, padded [8, 9]⟩] := rfl
  have made : encode types values = .ok data := by
    refine encode_eq_ok.mpr ⟨rfl, _, parts, ?_⟩
    have width : headWidths types = 128 := rfl
    have size : items.length = 64 := rfl
    simp [assemble, headsAndTails, width, size, data]
  obtain ⟨_, parts, encodings, _, laid⟩ := layout_of_encode (by simp [types, EveryAll, Every, Narrow]) made
    (by simp [data, items, pair, padded, length_bytesOf, UInt64.size])
  exact ⟨made, parts, encodings, laid⟩

end ChainScript.Abi
