import ChainScript.Proofs.AbiReading

/-! Bytes behind the data. The bounds of the reader grow with the data while positions, offsets and counts stay, so
what some bytes give is given by every longer data that starts with them. Data that is cut short is refused or gives
the same values, wherever its offsets lead. -/

namespace ChainScript.Abi

/-- What the first reading gives, the second gives too. Nothing is said of the second where the first fails. -/
def Persists {α : Type} (outcome longer : Except DecodeFault α) : Prop :=
  ∀ value, outcome = .ok value → longer = .ok value

namespace Persists

variable {α β : Type} {outcome longer : Except DecodeFault α}

theorem refl (outcome : Except DecodeFault α) : Persists outcome outcome :=
  fun _ read => read

theorem bind {next after : α → Except DecodeFault β} (first : Persists outcome longer)
    (rest : ∀ value, Persists (next value) (after value)) : Persists (outcome >>= next) (longer >>= after) := by
  intro result read
  obtain ⟨value, own, others⟩ := bind_eq_ok.mp read
  exact bind_eq_ok.mpr ⟨value, first value own, rest value result others⟩

/-- The steps that follow are the same, so only the first one reads. -/
theorem andThen (first : Persists outcome longer) (next : α → Except DecodeFault β) :
    Persists (outcome >>= next) (longer >>= next) :=
  first.bind fun value => refl (next value)

theorem map (first : Persists outcome longer) (f : α → β) : Persists (f <$> outcome) (f <$> longer) := by
  intro result read
  obtain ⟨value, own, same⟩ := map_eq_ok.mp read
  exact map_eq_ok.mpr ⟨value, first value own, same⟩

end Persists

variable (data extra : Bytes)

/-- Bytes that lie inside the data stay where they are. -/
private theorem slice_persists (position count : Nat) :
    Persists (slice data position count) (slice (data ++ extra) position count) := by
  intro bytes read
  obtain ⟨near, inside, rfl⟩ := slice_eq_ok.mp read
  have wider : position + count ≤ (data ++ extra).length := by
    rw [List.length_append]
    exact Nat.le_add_right_of_le inside
  refine slice_eq_ok.mpr ⟨near, wider, ?_⟩
  rw [List.drop_append_of_le_length (by omega), List.take_append_of_le_length]
  rw [List.length_drop]
  omega

private theorem readWord_persists (position : Nat) :
    Persists (readWord data position) (readWord (data ++ extra) position) :=
  slice_persists data extra position 32

private theorem readSize_persists (position : Nat) :
    Persists (readSize data position) (readSize (data ++ extra) position) := by
  apply (readWord_persists data extra position).bind
  intro word value read
  by_cases inside : numberOf word ≤ data.length
  · have wider : numberOf word ≤ (data ++ extra).length := by
      rw [List.length_append]
      exact Nat.le_add_right_of_le inside
    rw [if_pos inside] at read
    rw [if_pos wider]
    exact read
  · rw [if_neg inside] at read
    cases read

private theorem readBytes_persists (position : Nat) :
    Persists (readBytes data position) (readBytes (data ++ extra) position) := by
  apply (readSize_persists data extra position).bind
  intro count
  apply (Persists.refl (advance position 32)).bind
  intro start
  exact slice_persists data extra start count

private theorem slot_persists {type : AbiType}
    (each : ∀ position, Persists (decodeValue data type position) (decodeValue (data ++ extra) type position))
    (base position : Nat) :
    Persists (slot data base type position) (slot (data ++ extra) base type position) := by
  cases dynamic : type.isDynamic with
  | true =>
    rw [slot_of_dynamic data base dynamic, slot_of_dynamic (data ++ extra) base dynamic]
    apply (readSize_persists data extra position).bind
    intro offset
    apply (Persists.refl (advance base offset)).bind
    intro start
    exact each start
  | false =>
    rw [slot_of_static data base dynamic, slot_of_static (data ++ extra) base dynamic]
    exact each position

private theorem decodeMembers_persists {types : List AbiType}
    (each : ∀ type ∈ types, ∀ position,
      Persists (decodeValue data type position) (decodeValue (data ++ extra) type position))
    (base position : Nat) :
    Persists (decodeMembers data base types position) (decodeMembers (data ++ extra) base types position) := by
  induction types generalizing position with
  | nil => exact .refl _
  | cons type rest ih =>
    rw [decodeMembers_cons, decodeMembers_cons]
    apply (slot_persists data extra (each type List.mem_cons_self) base position).bind
    intro value
    exact (ih (fun other member => each other (List.mem_cons_of_mem _ member)) _).andThen _

mutual
private theorem decodeValue_persists (type : AbiType) (position : Nat) :
    Persists (decodeValue data type position) (decodeValue (data ++ extra) type position) := by
  cases type with
  | address => exact (readWord_persists data extra position).andThen _
  | uint bits => exact (readWord_persists data extra position).andThen _
  | int bits => exact (readWord_persists data extra position).andThen _
  | bool => exact (readWord_persists data extra position).andThen _
  | fixedBytes width => exact (readWord_persists data extra position).andThen _
  | bytes => exact (readBytes_persists data extra position).map _
  | string => exact (readBytes_persists data extra position).andThen _
  | array element =>
    rw [decodeArray_eq, decodeArray_eq]
    apply (readSize_persists data extra position).bind
    intro count
    apply (Persists.refl (advance position 32)).bind
    intro base
    refine (decodeMembers_persists data extra (fun type member start => ?_) base base).map _
    exact List.eq_of_mem_replicate member ▸ decodeValue_persists element start
  | fixedArray element size =>
    rw [decodeFixedArray_eq, decodeFixedArray_eq]
    refine (decodeMembers_persists data extra (fun type member start => ?_) position position).map _
    exact List.eq_of_mem_replicate member ▸ decodeValue_persists element start
  | tuple members =>
    rw [decodeTuple_eq, decodeTuple_eq]
    exact (decodeMembers_persists data extra (decodeEach_persists members) position position).map _
termination_by structural type

private theorem decodeEach_persists (types : List AbiType) :
    ∀ type ∈ types, ∀ position,
      Persists (decodeValue data type position) (decodeValue (data ++ extra) type position) := by
  cases types with
  | nil => exact fun _ member => nomatch member
  | cons first rest =>
    intro type member position
    rcases List.mem_cons.mp member with same | member
    · exact same ▸ decodeValue_persists first position
    · exact decodeEach_persists rest type member position
termination_by structural types
end

/-- Data that is read to some values is read to the same values whatever follows it, and every beginning of it is
refused or read to these values too. -/
theorem decode_append {types : List AbiType} {data : Bytes} {values : List AbiValue}
    (read : decode types data = .ok values) :
    (∀ extra, decode types (data ++ extra) = .ok values) ∧
      ∀ shorter, shorter <+: data →
        (∃ fault, decode types shorter = .error fault) ∨ decode types shorter = .ok values := by
  have longer (start rest : Bytes) : Persists (decode types start) (decode types (start ++ rest)) :=
    decodeMembers_persists start rest (decodeEach_persists start rest types) 0 0
  refine ⟨fun extra => longer data extra values read, ?_⟩
  rintro shorter ⟨rest, rfl⟩
  cases outcome : decode types shorter with
  | error fault => exact .inl ⟨fault, rfl⟩
  | ok others =>
    have same := longer shorter rest others outcome
    rw [read] at same
    exact .inr same.symm

/-- The offset leads back into the heads, so that one word is a truth value and the count of a byte string. -/
theorem decode_append_alias :
    decode [.bytes, .bool] (bytesOf 32 32 ++ bytesOf 32 1 ++ [0xAB]) = .ok [.bytes [0xAB], .bool true] ∧
      decode [.bytes, .bool] (bytesOf 32 32 ++ bytesOf 32 1 ++ [0xAB] ++ [0xCD]) =
        .ok [.bytes [0xAB], .bool true] ∧
      ((∃ fault, decode [.bytes, .bool] (bytesOf 32 32 ++ bytesOf 32 1) = .error fault) ∨
        decode [.bytes, .bool] (bytesOf 32 32 ++ bytesOf 32 1) = .ok [.bytes [0xAB], .bool true]) := by
  have read : decode [.bytes, .bool] (bytesOf 32 32 ++ bytesOf 32 1 ++ [0xAB]) =
      .ok [.bytes [0xAB], .bool true] := by cbv
  have heads : bytesOf 32 32 ++ bytesOf 32 1 <+: bytesOf 32 32 ++ bytesOf 32 1 ++ [0xAB] :=
    List.prefix_append (bytesOf 32 32 ++ bytesOf 32 1) [0xAB]
  obtain ⟨longer, shorter⟩ := decode_append read
  exact ⟨read, longer [0xCD], shorter _ heads⟩

end ChainScript.Abi
