import ChainScript.Proofs.AbiExtension
import ChainScript.Proofs.AbiMemory

/-! Sequences of types that are not dynamic. Their values stand where they are declared, in the room that the types tell:
the length of the data alone decides whether they can be read, what stands elsewhere does not matter, and a sequence can
be parted between any two of its slots. -/

namespace ChainScript.Abi
open AbiType

/-- The bytes lie in the data, and the position behind them has 64 bits. No bytes lie anywhere. -/
def Reaches (data : Bytes) (position width : Nat) : Prop :=
  width = 0 ∨ position + width ≤ data.length ∧ position + width < UInt64.size

theorem reaches_add {data : Bytes} {position width more : Nat} :
    Reaches data position (width + more) ↔ Reaches data position width ∧ Reaches data (position + width) more := by
  unfold Reaches
  omega

theorem readWord_reaches {data : Bytes} {position : Nat} :
    (∃ word, readWord data position = .ok word) ↔ Reaches data position 32 := by
  constructor
  · rintro ⟨word, read⟩
    obtain ⟨near, inside, -⟩ := slice_eq_ok.mp read
    exact .inr ⟨inside, near⟩
  · rintro (none | ⟨inside, near⟩)
    · cases none
    · exact ⟨_, slice_eq_ok.mpr ⟨near, inside, rfl⟩⟩

/-- The words in so many bytes from one position on are read from other data too, from a position of its own. -/
def Rereads (data other : Bytes) (position start width : Nat) : Prop :=
  ∀ offset, offset + 32 ≤ width → Persists (readWord data (position + offset)) (readWord other (start + offset))

namespace Rereads

variable {data other : Bytes} {position start width more : Nat}

theorem left (reread : Rereads data other position start (width + more)) : Rereads data other position start width :=
  fun offset inside => reread offset (Nat.le_add_right_of_le inside)

theorem right (reread : Rereads data other position start (width + more)) :
    Rereads data other (position + width) (start + width) more := by
  intro offset inside
  rw [Nat.add_assoc, Nat.add_assoc]
  exact reread (width + offset) (by omega)

/-- The other data starts with the same bytes. -/
theorem of_take (same : other.take width = data.take width) : Rereads data other 0 0 width := by
  intro offset fits word read
  rw [Nat.zero_add] at read ⊢
  obtain ⟨near, inside, rfl⟩ := slice_eq_ok.mp read
  have long : offset + 32 ≤ other.length := by
    have sizes := congrArg List.length same
    rw [List.length_take, List.length_take] at sizes
    omega
  have kept (bytes : Bytes) : (bytes.drop offset).take 32 = ((bytes.take width).drop offset).take 32 := by
    rw [List.drop_take, List.take_take, Nat.min_eq_left (by omega)]
  refine slice_eq_ok.mpr ⟨near, long, ?_⟩
  rw [kept other, same, ← kept data]

/-- The other data lacks the bytes in front. -/
theorem of_drop (data : Bytes) (position width : Nat) : Rereads data (data.drop position) position 0 width := by
  intro offset fits word read
  rw [Nat.zero_add]
  obtain ⟨near, inside, rfl⟩ := slice_eq_ok.mp read
  refine slice_eq_ok.mpr ⟨by omega, ?_, ?_⟩
  · rw [List.length_drop]
    omega
  · rw [List.drop_drop]

end Rereads

/-- A reader of so many bytes. It gives a value just if they lie in the data, and the same value for all data from which
the same words can be read. -/
structure Confined {α : Type} (width : Nat) (read : Bytes → Nat → Except DecodeFault α) : Prop where
  reads : ∀ data position, (∃ value, read data position = .ok value) ↔ Reaches data position width
  reread : ∀ data other position start, Rereads data other position start width →
    Persists (read data position) (read other start)

namespace Confined

variable {width more : Nat}

theorem word {next : Bytes → Except DecodeFault AbiValue} (total : ∀ word, ∃ value, next word = .ok value) :
    Confined 32 fun data position => readWord data position >>= next := by
  constructor
  · intro data position
    rw [← readWord_reaches]
    constructor
    · rintro ⟨value, read⟩
      obtain ⟨word, found, -⟩ := bind_eq_ok.mp read
      exact ⟨word, found⟩
    · rintro ⟨word, found⟩
      obtain ⟨value, made⟩ := total word
      exact ⟨value, bind_eq_ok.mpr ⟨word, found, made⟩⟩
  · exact fun data other position start reread => (reread 0 (Nat.le_refl 32)).andThen next

theorem none : Confined 0 fun _ _ => .ok ([] : List AbiValue) := by
  constructor
  · exact fun data position => ⟨fun _ => .inl rfl, fun _ => ⟨[], rfl⟩⟩
  · exact fun data other position start _ => .refl _

/-- The other readers start where the room of the first one ends. -/
theorem cons {first : Bytes → Nat → Except DecodeFault AbiValue}
    {rest : Bytes → Nat → Except DecodeFault (List AbiValue)} (own : Confined width first) (others : Confined more rest) :
    Confined (width + more) fun data position => do
      let value ← first data position
      let values ← rest data (position + width)
      return value :: values := by
  constructor
  · intro data position
    rw [reaches_add, ← own.reads, ← others.reads]
    constructor
    · rintro ⟨listed, read⟩
      obtain ⟨value, head, following⟩ := bind_eq_ok.mp read
      obtain ⟨values, tail, -⟩ := bind_eq_ok.mp following
      exact ⟨⟨value, head⟩, values, tail⟩
    · rintro ⟨⟨value, head⟩, values, tail⟩
      exact ⟨value :: values, bind_eq_ok.mpr ⟨value, head, bind_eq_ok.mpr ⟨values, tail, rfl⟩⟩⟩
  · intro data other position start reread
    apply (own.reread data other position start reread.left).bind
    intro value
    exact (others.reread data other _ _ reread.right).andThen _

theorem map {α β : Type} {read : Bytes → Nat → Except DecodeFault α} (own : Confined width read) (f : α → β) :
    Confined width fun data position => f <$> read data position := by
  constructor
  · intro data position
    rw [← own.reads]
    constructor
    · rintro ⟨made, read⟩
      obtain ⟨value, found, -⟩ := map_eq_ok.mp read
      exact ⟨value, found⟩
    · exact fun ⟨value, found⟩ => ⟨f value, map_eq_ok.mpr ⟨value, found, rfl⟩⟩
  · exact fun data other position start reread => (own.reread data other position start reread).map f

end Confined

section
variable {types : List AbiType}

/-- Without offsets, it does not matter where they are counted from. -/
theorem decodeMembers_of_static (static : ∀ type ∈ types, type.isDynamic = false) (data : Bytes) (base position : Nat) :
    decodeMembers data base types position = decodeMembers data 0 types position := by
  induction types generalizing position with
  | nil => rfl
  | cons type rest ih =>
    obtain ⟨own, others⟩ := List.forall_mem_cons.mp static
    rw [decodeMembers_cons, decodeMembers_cons, slot_of_static data base own, slot_of_static data 0 own, ih others]

theorem confined_members (static : ∀ type ∈ types, type.isDynamic = false)
    (each : ∀ type ∈ types, Confined type.headWidth fun data => decodeValue data type) :
    Confined (headWidths types) fun data => decodeMembers data 0 types := by
  induction types with
  | nil => exact .none
  | cons type rest ih =>
    rw [List.forall_mem_cons] at static each
    have whole := each.1.cons (ih static.2 each.2)
    simp only [← slot_of_static _ 0 static.1, ← decodeMembers_cons] at whole
    exact whole

/-- A sequence in its place, where its own offsets would be counted from. -/
theorem confined_placed (static : ∀ type ∈ types, type.isDynamic = false)
    (each : ∀ type ∈ types, Confined type.headWidth fun data => decodeValue data type) :
    Confined (headWidths types) fun data position => decodeMembers data position types position := by
  have same : (fun data position => decodeMembers data position types position) =
      fun data => decodeMembers data 0 types := by
    funext data position
    exact decodeMembers_of_static static data position position
  rw [same]
  exact confined_members static each

end

theorem confined_value {type : AbiType} (static : type.isDynamic = false) (narrow : Every Narrow type) :
    Confined type.headWidth fun data position => decodeValue data type position := by
  induction type using by_parts with
  | address => exact .word fun word => ⟨_, rfl⟩
  | uint bits => exact .word fun word => ⟨_, rfl⟩
  | int bits => exact .word fun word => ⟨_, rfl⟩
  | bool => exact .word fun word => ⟨_, rfl⟩
  | fixedBytes width => exact .word fun word => ⟨_, if_pos narrow⟩
  | bytes => cases static
  | string => cases static
  | array element => cases static
  | fixedArray element size ih =>
    have inner : element.isDynamic = false := static
    have width : headWidth (.fixedArray element size) = headWidths (List.replicate size element) := by
      rw [headWidth, inner, headWidths_replicate]
      rfl
    simp only [decodeFixedArray_eq, width]
    refine (confined_placed ?_ ?_).map _
    · exact fun type member => List.eq_of_mem_replicate member ▸ inner
    · exact fun type member => List.eq_of_mem_replicate member ▸ ih inner narrow.2
  | tuple members ih =>
    have inner : anyDynamic members = false := static
    have width : headWidth (.tuple members) = headWidths members := by
      rw [headWidth, inner]
      rfl
    have each := anyDynamic_eq_false_iff.mp inner
    have fitting := everyAll_iff.mp narrow.2
    simp only [decodeTuple_eq, width]
    exact (confined_placed each fun type member => ih type member (each type member) (fitting type member)).map _

/-- The members behind the first ones are read from the slot behind theirs. -/
theorem decodeMembers_append (data : Bytes) (base : Nat) (first second : List AbiType) (position : Nat) :
    decodeMembers data base (first ++ second) position = (do
      let front ← decodeMembers data base first position
      let back ← decodeMembers data base second (position + headWidths first)
      return front ++ back) := by
  induction first generalizing position with
  | nil =>
    have none : decodeMembers data base [] position = .ok [] := rfl
    rw [none, ok_bind]
    exact (bind_pure _).symm
  | cons type rest ih =>
    rw [List.cons_append, decodeMembers_cons, decodeMembers_cons]
    simp only [ih, headWidths, Nat.add_assoc, bind_assoc, pure_bind, List.cons_append]

/-- What reading comes to for types that are not dynamic, where it is not stopped. -/
theorem decode_slots {types : List AbiType} (static : ∀ type ∈ types, type.isDynamic = false)
    (narrow : EveryAll Narrow types) (data : Bytes) :
    (data.length < UInt64.size → ((∃ values, decode types data = .ok values) ↔ headWidths types ≤ data.length)) ∧
      ∀ values, decode types data = .ok values →
        (∀ other, other.take (headWidths types) = data.take (headWidths types) → decode types other = .ok values) ∧
          ∀ first second, types = first ++ second → ∃ front back, decode first data = .ok front ∧
            decode second (data.drop (headWidths first)) = .ok back ∧ values = front ++ back := by
  have each : ∀ type ∈ types, Confined type.headWidth fun data => decodeValue data type :=
    fun type member => confined_value (static type member) (everyAll_iff.mp narrow type member)
  have whole := confined_members static each
  refine ⟨fun short => ?_, fun values read => ⟨fun other same => ?_, ?_⟩⟩
  · have reach : Reaches data 0 (headWidths types) ↔ headWidths types ≤ data.length := by
      unfold Reaches
      omega
    exact (whole.reads data 0).trans reach
  · exact whole.reread data other 0 0 (.of_take same) values read
  · rintro first second rfl
    rw [decode, decodeMembers_append] at read
    obtain ⟨front, own, following⟩ := bind_eq_ok.mp read
    obtain ⟨back, others, made⟩ := bind_eq_ok.mp following
    cases made
    rw [List.forall_mem_append] at static each
    have behind := confined_members static.2 each.2
    refine ⟨front, back, own, ?_, rfl⟩
    exact behind.reread _ _ _ 0 (.of_drop data _ _) back (Nat.zero_add (headWidths first) ▸ others)

/-- Values of types that are not dynamic, with sizes of which all lists can be addressed, are read just if the data is as
long as the types tell; otherwise reading ends with a fault. Nothing behind these bytes has a part in them. Wherever the
types are parted, the first ones are read from the data, and the others from what is left of it behind the room of the
first. -/
theorem decode?_slots {types : List AbiType} (static : ∀ type ∈ types, type.isDynamic = false)
    (narrow : EveryAll Narrow types) (modest : EveryAll Modest types) (data : Bytes) :
    (∃ outcome, decode? types data = some outcome) ∧
      (data.length < UInt64.size →
        ((∃ values, decode? types data = some (.ok values)) ↔ headWidths types ≤ data.length)) ∧
      ∀ values, decode? types data = some (.ok values) →
        (∀ other, other.take (headWidths types) = data.take (headWidths types) →
          decode? types other = some (.ok values)) ∧
          ∀ first second, types = first ++ second → ∃ front back, decode? first data = some (.ok front) ∧
            decode? second (data.drop (headWidths first)) = some (.ok back) ∧ values = front ++ back := by
  have ends (data : Bytes) : decode? types data = some (decode types data) := decode?_of_static static modest data
  simp only [ends, Option.some.injEq]
  obtain ⟨fits, behind⟩ := decode_slots static narrow data
  refine ⟨⟨_, rfl⟩, fits, fun values read => ?_⟩
  obtain ⟨cut, parted⟩ := behind values read
  refine ⟨cut, ?_⟩
  rintro first second rfl
  obtain ⟨front, back, own, others, made⟩ := parted first second rfl
  rw [List.forall_mem_append] at static
  obtain ⟨modestFirst, modestSecond⟩ := List.forall_mem_append.mp (everyAll_iff.mp modest)
  refine ⟨front, back, ?_, ?_, made⟩
  · rw [decode?_of_static static.1 (everyAll_iff.mpr modestFirst), own]
  · rw [decode?_of_static static.2 (everyAll_iff.mpr modestSecond), others]

/-- A slot without room stands between two others, and there is one byte more than they need. -/
theorem decode?_slots_parted :
    let pair : AbiType := .tuple [.fixedBytes 2, .fixedArray .address 0]
    let types : List AbiType := [pair, .tuple [], .fixedArray .bool 2]
    let front := [0xAB, 0xCD] ++ bytesOf 30 0
    let back := bytesOf 32 1 ++ bytesOf 32 0 ++ [0xEF]
    let values : List AbiValue :=
      [.tuple [.fixedBytes [0xAB, 0xCD], .fixedArray []], .tuple [], .fixedArray [.bool true, .bool false]]
    decode? types (front ++ back) = some (.ok values) ∧
      decode? types (front ++ back.take 64) = some (.ok values) ∧
      (∃ first rest, decode? [pair] (front ++ back) = some (.ok first) ∧
        decode? [.tuple [], .fixedArray .bool 2] back = some (.ok rest) ∧ values = first ++ rest) ∧
      ¬∃ values, decode? types (front ++ back.take 63) = some (.ok values) := by
  intro pair types front back values
  have static : ∀ type ∈ types, type.isDynamic = false := anyDynamic_eq_false_iff.mp rfl
  have narrow : EveryAll Narrow types :=
    ⟨⟨trivial, (by decide : 2 ≤ 32), ⟨trivial, trivial⟩, trivial⟩, ⟨trivial, trivial⟩, ⟨trivial, trivial⟩, trivial⟩
  have modest : EveryAll Modest types := by
    simp [types, pair, EveryAll, Every, Modest, headWidth, headWidths, isDynamic]
  have read : decode? types (front ++ back) = some (.ok values) := rfl
  obtain ⟨-, -, behind⟩ := decode?_slots static narrow modest (front ++ back)
  obtain ⟨cut, parted⟩ := behind values read
  obtain ⟨-, fits, -⟩ := decode?_slots static narrow modest (front ++ back.take 63)
  refine ⟨read, cut _ rfl, parted [pair] [.tuple [], .fixedArray .bool 2] rfl, ?_⟩
  rw [fits (by decide)]
  decide

/-- Items that take up no bytes are all there in no data; but there are too many of them for a list. -/
theorem decode?_oversized :
    let types : List AbiType := [.fixedArray (.tuple []) 2305843009213693952]
    (∀ type ∈ types, type.isDynamic = false) ∧ EveryAll Narrow types ∧ headWidths types ≤ ([] : Bytes).length ∧
      decode? types [] = none := by
  intro types
  have narrow : EveryAll Narrow types := ⟨⟨trivial, trivial, trivial⟩, trivial⟩
  exact ⟨anyDynamic_eq_false_iff.mp rfl, narrow, by decide, rfl⟩

end ChainScript.Abi
