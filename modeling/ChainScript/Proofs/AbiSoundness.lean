import ChainScript.Proofs.AbiRoundTrip

/-! What the reader gives for any bytes at all. Offsets may overlap, point backwards or share their tails, so
nothing is assumed about the layout: every value that comes back has the shape of its type, and it can be written
in the regular layout and read again. -/

namespace ChainScript.Abi
open AbiType

/-- A value that is read has a property, and a failure is one of reading contract data. -/
structure Sound {α : Type} (holds : α → Prop) (outcome : Except DecodeFault α) : Prop where
  value : ∀ value, outcome = .ok value → holds value
  fault : outcome ≠ .error .noSelector

namespace Sound

variable {α β : Type} {holds : α → Prop} {other : β → Prop} {outcome : Except DecodeFault α}

theorem ok {value : α} (property : holds value) : Sound holds (.ok value) :=
  ⟨fun _ same => Except.ok.inj same ▸ property, nofun⟩

theorem error {fault : DecodeFault} (differs : fault ≠ .noSelector) : Sound holds (.error fault) :=
  ⟨nofun, fun same => differs (Except.error.inj same)⟩

theorem bind {next : α → Except DecodeFault β} (first : Sound holds outcome)
    (rest : ∀ value, holds value → Sound other (next value)) : Sound other (outcome >>= next) := by
  cases outcome with
  | ok value => exact rest value (first.value value rfl)
  | error fault => exact error fun same => first.fault (congrArg Except.error same)

theorem map {f : α → β} (first : Sound holds outcome) (implies : ∀ value, holds value → other (f value)) :
    Sound other (f <$> outcome) := by
  cases outcome with
  | ok value => exact ok (implies value (first.value value rfl))
  | error fault => exact error fun same => first.fault (congrArg Except.error same)

end Sound

variable (data : Bytes)

private theorem advance_sound (position distance : Nat) :
    Sound (fun moved => moved = position + distance) (advance position distance) := by
  rw [advance]
  split
  · exact .ok rfl
  · exact .error nofun

private theorem slice_sound (position count : Nat) :
    Sound (fun bytes => bytes.length = count) (slice data position count) := by
  apply (advance_sound position count).bind
  intro stop moved
  split
  · apply Sound.ok
    rw [List.length_take, List.length_drop]
    omega
  · exact .error nofun

private theorem readSize_sound (position : Nat) : Sound (fun _ => True) (readSize data position) := by
  apply (slice_sound data position 32).bind
  intro word _
  dsimp only
  split
  · exact .ok trivial
  · exact .error nofun

private theorem readBytes_sound (position : Nat) : Sound (fun _ => True) (readBytes data position) := by
  apply (readSize_sound data position).bind
  intro count _
  apply (advance_sound position 32).bind
  intro start _
  exact ⟨fun _ _ => trivial, (slice_sound data start count).fault⟩

private theorem slot_sound {holds : AbiValue → Prop} {type : AbiType}
    (each : ∀ position, Sound holds (decodeValue data type position)) (base position : Nat) :
    Sound holds (slot data base type position) := by
  cases dynamic : type.isDynamic with
  | true =>
    rw [slot_of_dynamic data base dynamic]
    apply (readSize_sound data position).bind
    intro offset _
    apply (advance_sound base offset).bind
    intro start _
    exact each start
  | false =>
    rw [slot_of_static data base dynamic]
    exact each position

private theorem decodeMembers_sound {types : List AbiType}
    (each : ∀ type ∈ types, ∀ position, Sound (Shaped exact type) (decodeValue data type position))
    (base position : Nat) : Sound (ExactAll types) (decodeMembers data base types position) := by
  induction types generalizing position with
  | nil => exact .ok .nil
  | cons type rest ih =>
    rw [decodeMembers_cons]
    apply (slot_sound data (each type List.mem_cons_self) base position).bind
    intro value first
    apply (ih (fun other member => each other (List.mem_cons_of_mem _ member)) _).bind
    intro values others
    exact .ok (.cons first others)

private theorem each_of_replicate {element : AbiType}
    (sound : ∀ position, Sound (Shaped exact element) (decodeValue data element position)) (count : Nat) :
    ∀ type ∈ List.replicate count element, ∀ position,
      Sound (Shaped exact type) (decodeValue data type position) :=
  fun _ member => List.eq_of_mem_replicate member ▸ sound

mutual
theorem decodeValue_sound (type : AbiType) (position : Nat) :
    Sound (Shaped exact type) (decodeValue data type position) := by
  cases type with
  | address =>
    apply (slice_sound data position 32).bind
    exact fun word _ => .ok (.address _)
  | uint bits =>
    apply (slice_sound data position 32).bind
    exact fun word _ => .ok (.uint bits _)
  | int bits =>
    apply (slice_sound data position 32).bind
    exact fun word size => .ok (.int bits (SignedWord.ranged_ofBytes size))
  | bool =>
    apply (slice_sound data position 32).bind
    exact fun word _ => .ok (.bool _)
  | fixedBytes width =>
    apply (slice_sound data position 32).bind
    intro word size
    split
    next narrow =>
      apply Sound.ok
      apply Shaped.fixedBytes
      refine ⟨?_, narrow⟩
      rw [List.length_take]
      omega
    next => exact .error nofun
  | bytes => exact (readBytes_sound data position).map fun content _ => .bytes content
  | string =>
    apply (readBytes_sound data position).bind
    intro content _
    split
    · exact .ok (.string _)
    · exact .error nofun
  | array element =>
    rw [decodeArray_eq]
    apply (readSize_sound data position).bind
    intro count _
    apply (advance_sound position 32).bind
    intro base _
    apply (decodeMembers_sound data (each_of_replicate data (decodeValue_sound element) count) base base).map
    exact fun values shaped => .array shaped.recounted
  | fixedArray element size =>
    rw [decodeFixedArray_eq]
    apply (decodeMembers_sound data (each_of_replicate data (decodeValue_sound element) size) position position).map
    exact fun values shaped => .fixedArray shaped.counted shaped.recounted
  | tuple members =>
    rw [decodeTuple_eq]
    exact (decodeMembers_sound data (decodeEach_sound members) position position).map fun values shaped =>
      .tuple shaped
termination_by structural type

private theorem decodeEach_sound (types : List AbiType) :
    ∀ type ∈ types, ∀ position, Sound (Shaped exact type) (decodeValue data type position) := by
  cases types with
  | nil => exact fun _ member => nomatch member
  | cons first rest =>
    intro type member position
    rcases List.mem_cons.mp member with same | member
    · exact same ▸ decodeValue_sound first position
    · exact decodeEach_sound rest type member position
termination_by structural types
end

theorem exactAll_of_decode {data : Bytes} {types : List AbiType} {values : List AbiValue}
    (read : decode types data = .ok values) : ExactAll types values :=
  (decodeMembers_sound data (decodeEach_sound data types) 0 0).value values read

/-- What is read has the shape of its types, it can be written, and unless items of arrays take up no room it is
read again from what is written. A failure is one of reading contract data. -/
theorem decode_sound (types : List AbiType) :
    (∀ values, decode types data = .ok values → ExactAll types values ∧
      ∃ written, encode types values = .ok written ∧
        (EveryAll Roomy types → written.length < UInt64.size → decode types written = .ok values)) ∧
      (∀ error, (decode types data).mapError AbiError.decoding = .error error →
        ∃ fault, error = .decoding fault ∧ fault ≠ .noSelector) := by
  have sound := decodeMembers_sound data (decodeEach_sound data types) 0 0
  constructor
  · intro values read
    have shaped := sound.value values read
    obtain ⟨parts, made⟩ := encodeParts_of_fitAll shaped.fits
    have written := encode_eq_ok.mpr ⟨shaped.length_eq, parts, made, rfl⟩
    refine ⟨shaped, _, written, fun roomy short => ?_⟩
    have counted (limit : Nat) := countedAll_of_roomy limit shaped roomy
    have yields := decode_yields short shaped.fits written (counted _)
    rw [canonicalAll_of_exact shaped] at yields
    exact yields.reads (counted _)
  · intro error failed
    cases outcome : decode types data with
    | ok values =>
      rw [outcome] at failed
      cases failed
    | error fault =>
      rw [outcome] at failed
      cases failed
      exact ⟨fault, rfl, fun same => sound.fault (same ▸ outcome)⟩

/-- Two members that share one tail are read, written apart, and read again. -/
theorem decode_sound_shared :
    decode [.bytes, .bytes] (bytesOf 32 64 ++ bytesOf 32 64 ++ padded [1, 2]) =
      .ok [.bytes [1, 2], .bytes [1, 2]] ∧
      ∃ written, encode [.bytes, .bytes] [.bytes [1, 2], .bytes [1, 2]] = .ok written ∧ written.length = 192 ∧
        decode [.bytes, .bytes] written = .ok [.bytes [1, 2], .bytes [1, 2]] := by
  have read : decode [.bytes, .bytes] (bytesOf 32 64 ++ bytesOf 32 64 ++ padded [1, 2]) =
      .ok [.bytes [1, 2], .bytes [1, 2]] := by cbv
  obtain ⟨_, written, made, again⟩ := (decode_sound _ [.bytes, .bytes]).1 _ read
  have size : written.length = 192 := by
    rw [← Except.ok.inj made]
    rfl
  exact ⟨read, written, made, size, again ⟨trivial, trivial, trivial⟩ (by rw [size]; decide)⟩

end ChainScript.Abi
