import Mathlib.Logic.ExistsUnique
import ChainScript.Proofs.AbiMemory

/-! What writing does with values that do not fit their types. It ends with the fault of the first misfit from the left:
the number of values in a list is looked at before any of them, and a value that is no list of its type's kind is named
itself, however deep inside of others it stands. -/

namespace ChainScript.Abi
open AbiType

/-- A value of the kind that its type asks for, and not more bytes than the type has room for. What a list holds is not
looked at. -/
inductive Alike : AbiType → AbiValue → Prop where
  | address (account : Address) : Alike .address (.address account)
  | uint (bits : Nat) (word : Word) : Alike (.uint bits) (.uint word)
  | int (bits : Nat) (number : SignedWord) : Alike (.int bits) (.int number)
  | bool (set : Bool) : Alike .bool (.bool set)
  | bytes (content : Bytes) : Alike .bytes (.bytes content)
  | fixedBytes {width : Nat} {content : Bytes} (room : content.length ≤ width) :
      Alike (.fixedBytes width) (.fixedBytes content)
  | string (content : String) : Alike .string (.string content)
  | array (element : AbiType) (items : List AbiValue) : Alike (.array element) (.array items)
  | fixedArray (element : AbiType) (size : Nat) (items : List AbiValue) :
      Alike (.fixedArray element size) (.fixedArray items)
  | tuple (types : List AbiType) (members : List AbiValue) : Alike (.tuple types) (.tuple members)

/-- The values inside of a value, and the types that they are written as. -/
inductive Encloses : AbiType → AbiValue → List AbiType → List AbiValue → Prop where
  | array (element : AbiType) (items : List AbiValue) :
      Encloses (.array element) (.array items) (List.replicate items.length element) items
  | fixedArray (element : AbiType) (size : Nat) (items : List AbiValue) :
      Encloses (.fixedArray element size) (.fixedArray items) (List.replicate size element) items
  | tuple (types : List AbiType) (members : List AbiValue) : Encloses (.tuple types) (.tuple members) types members

mutual
/-- The fault of a value that does not fit its type. -/
inductive Misfit : AbiType → AbiValue → EncodeFault → Prop where
  | own {type : AbiType} {value : AbiValue} (unlike : ¬Alike type value) : Misfit type value (.misfit value type)
  | inside {type : AbiType} {value : AbiValue} {types : List AbiType} {members : List AbiValue} {fault : EncodeFault}
      (encloses : Encloses type value types members) (first : FirstMisfit types members fault) :
      Misfit type value fault

/-- The first fault of a list of values: their number, or else the fault of a value with nothing but fitting values
before it. -/
inductive FirstMisfit : List AbiType → List AbiValue → EncodeFault → Prop where
  | count {types : List AbiType} {values : List AbiValue} (differs : types.length ≠ values.length) :
      FirstMisfit types values (.wrongCount types.length values.length)
  | member {types others : List AbiType} {values rest : List AbiValue} {type : AbiType} {value : AbiValue}
      {fault : EncodeFault} (before : FitAll types values) (misfit : Misfit type value fault)
      (count : others.length = rest.length) : FirstMisfit (types ++ type :: others) (values ++ value :: rest) fault
end

theorem encode_eq_error {types : List AbiType} {values : List AbiValue} {fault : EncodeFault} :
    encode types values = .error fault ↔
      types.length ≠ values.length ∧ .wrongCount types.length values.length = fault ∨
        types.length = values.length ∧ encodeParts types values = .error fault := by
  rw [encode]
  split
  next count => simp [map_eq_error, count]
  next differs => simp [differs]

theorem encode_cons_eq_error {type : AbiType} {types : List AbiType} {value : AbiValue} {values : List AbiValue}
    {fault : EncodeFault} (count : types.length = values.length) :
    encode (type :: types) (value :: values) = .error fault ↔
      encodeValue type value = .error fault ∨
        ∃ bytes, encodeValue type value = .ok bytes ∧ encode types values = .error fault := by
  have parts : encodeParts (type :: types) (value :: values) = .error fault ↔
      encodeValue type value = .error fault ∨
        ∃ bytes, encodeValue type value = .ok bytes ∧ encodeParts types values = .error fault := by
    rw [encodeParts]
    simp [bind_eq_error, map_eq_error]
  simp only [encode_eq_error, List.length_cons, count, ne_eq, not_true_eq_false, false_and, false_or, true_and, parts]

theorem encodeValue_of_unlike {type : AbiType} {value : AbiValue} (unlike : ¬Alike type value) :
    encodeValue type value = .error (.misfit value type) := by
  rw [encodeValue.eq_def]
  split
  next account => exact absurd (.address account) unlike
  next word bits => exact absurd (.uint bits word) unlike
  next number bits => exact absurd (.int bits number) unlike
  next set => exact absurd (.bool set) unlike
  next content width =>
    split
    next room => exact absurd (.fixedBytes room) unlike
    next => rfl
  next content => exact absurd (.bytes content) unlike
  next content => exact absurd (.string content) unlike
  next items element => exact absurd (.array element items) unlike
  next items element size => exact absurd (.fixedArray element size items) unlike
  next members types => exact absurd (.tuple types members) unlike
  next => rfl

/-- A list inside of a value is written like any other list. -/
theorem encodeValue_of_encloses {type : AbiType} {value : AbiValue} {types : List AbiType} {members : List AbiValue}
    {fault : EncodeFault} (encloses : Encloses type value types members) :
    encodeValue type value = .error fault ↔ encode types members = .error fault := by
  cases encloses with
  | array element => simp [encodeValue, encode_eq_error, map_eq_error]
  | fixedArray element size =>
    rw [encodeValue, encode_eq_error, List.length_replicate]
    split
    next count => simp [map_eq_error, count]
    next differs => simp [differs]
  | tuple =>
    rw [encodeValue, encode_eq_error]
    split
    next count => simp [map_eq_error, count]
    next differs => simp [differs]

theorem encodeValue_eq_error {type : AbiType} {value : AbiValue} {fault : EncodeFault}
    (failed : encodeValue type value = .error fault) :
    ¬Alike type value ∧ .misfit value type = fault ∨
      ∃ types members, Encloses type value types members ∧ encode types members = .error fault := by
  by_cases alike : Alike type value
  · right
    cases alike with
    | address | uint | int | bool | bytes | string => cases failed
    | fixedBytes room =>
      rw [encodeValue, if_pos room] at failed
      cases failed
    | array element items => exact ⟨_, _, .array element items, (encodeValue_of_encloses (.array ..)).mp failed⟩
    | fixedArray element size items =>
      exact ⟨_, _, .fixedArray element size items, (encodeValue_of_encloses (.fixedArray ..)).mp failed⟩
    | tuple types members => exact ⟨_, _, .tuple types members, (encodeValue_of_encloses (.tuple ..)).mp failed⟩
  · rw [encodeValue_of_unlike alike] at failed
    exact .inl ⟨alike, Except.error.inj failed⟩

theorem FirstMisfit.cons {type : AbiType} {types : List AbiType} {value : AbiValue} {values : List AbiValue}
    {fault : EncodeFault} (fits : Shaped fitting type value) (first : FirstMisfit types values fault)
    (count : types.length = values.length) : FirstMisfit (type :: types) (value :: values) fault := by
  cases first with
  | count differs => exact absurd count differs
  | member before misfit others => exact .member (.cons fits before) misfit others

theorem Encloses.everyAll {holds : AbiType → Prop} {type : AbiType} {value : AbiValue} {types : List AbiType}
    {members : List AbiValue} (encloses : Encloses type value types members) (every : Every holds type) :
    EveryAll holds types := by
  cases encloses with
  | array => exact everyAll_replicate every.2 _
  | fixedArray => exact everyAll_replicate every.2 _
  | tuple => exact every.2

theorem Encloses.sizeOf_lt {type : AbiType} {value : AbiValue} {types : List AbiType} {members : List AbiValue}
    (encloses : Encloses type value types members) : sizeOf members < sizeOf value := by
  cases encloses with
  | array | fixedArray | tuple => simp

mutual
theorem misfit_of_encodeValue {type : AbiType} {value : AbiValue} {fault : EncodeFault} (narrow : Every Narrow type)
    (failed : encodeValue type value = .error fault) : Misfit type value fault := by
  rcases encodeValue_eq_error failed with ⟨unlike, rfl⟩ | ⟨types, members, encloses, inner⟩
  · exact .own unlike
  · have smaller := encloses.sizeOf_lt
    exact .inside encloses (firstMisfit_of_encode (encloses.everyAll narrow) inner)
termination_by sizeOf value

theorem firstMisfit_of_encode {types : List AbiType} {values : List AbiValue} {fault : EncodeFault}
    (narrow : EveryAll Narrow types) (failed : encode types values = .error fault) :
    FirstMisfit types values fault := by
  rcases encode_eq_error.mp failed with ⟨differs, rfl⟩ | ⟨count, parts⟩
  · exact .count differs
  cases values with
  | nil =>
    rw [List.length_eq_zero_iff.mp count] at parts
    cases parts
  | cons value rest =>
    cases types with
    | nil => cases count
    | cons type others =>
      have fewer : others.length = rest.length := Nat.succ.inj count
      -- What has been written fits, so a misfit among the others has nothing but fitting values before it.
      rcases (encode_cons_eq_error fewer).mp failed with first | ⟨bytes, made, later⟩
      · exact .member .nil (misfit_of_encodeValue narrow.1 first) fewer
      · exact .cons (fits_of_encodeValue narrow.1 made) (firstMisfit_of_encode narrow.2 later) fewer
termination_by sizeOf values
end

theorem encode_append_of_fitAll {types others : List AbiType} {values rest : List AbiValue} {type : AbiType}
    {value : AbiValue} {fault : EncodeFault} (before : FitAll types values)
    (failed : encodeValue type value = .error fault) (count : others.length = rest.length) :
    encode (types ++ type :: others) (values ++ value :: rest) = .error fault := by
  induction types generalizing values with
  | nil =>
    cases before
    exact (encode_cons_eq_error count).mpr (.inl failed)
  | cons first types ih =>
    cases before with
    | cons fits before =>
      obtain ⟨bytes, made⟩ := encodeValue_of_fits fits
      refine (encode_cons_eq_error ?_).mpr (.inr ⟨bytes, made, ih before⟩)
      simp [before.length_eq, count]

mutual
theorem encodeValue_of_misfit {type : AbiType} {value : AbiValue} {fault : EncodeFault} :
    Misfit type value fault → encodeValue type value = .error fault
  | .own unlike => encodeValue_of_unlike unlike
  | .inside encloses first => (encodeValue_of_encloses encloses).mpr (encode_of_firstMisfit first)

theorem encode_of_firstMisfit {types : List AbiType} {values : List AbiValue} {fault : EncodeFault} :
    FirstMisfit types values fault → encode types values = .error fault
  | .count differs => encode_eq_error.mpr (.inl ⟨differs, rfl⟩)
  | .member before misfit count => encode_append_of_fitAll before (encodeValue_of_misfit misfit) count
end

/-- Writing succeeds for just those values that fit their types, and any others end it with their first misfit. -/
theorem encode_accepts_iff {types : List AbiType} {values : List AbiValue} (narrow : EveryAll Narrow types) :
    ((∃ data, encode types values = .ok data) ↔ FitAll types values) ∧
      ∀ fault, encode types values = .error fault ↔ FirstMisfit types values fault := by
  refine ⟨⟨?_, ?_⟩, fun fault => ⟨firstMisfit_of_encode narrow, encode_of_firstMisfit⟩⟩
  · rintro ⟨data, made⟩
    obtain ⟨count, parts, written, -⟩ := encode_eq_ok.mp made
    exact fitAll_of_encodeParts narrow count written
  · intro fits
    obtain ⟨parts, written⟩ := encodeParts_of_fitAll fits
    exact ⟨_, encode_eq_ok.mpr ⟨fits.length_eq, parts, written, rfl⟩⟩

theorem existsUnique_firstMisfit {types : List AbiType} {values : List AbiValue} (narrow : EveryAll Narrow types)
    (unfit : ¬FitAll types values) : ∃! fault, FirstMisfit types values fault := by
  obtain ⟨accepts, refuses⟩ := @encode_accepts_iff types values narrow
  cases written : encode types values with
  | ok data => exact absurd (accepts.mp ⟨data, written⟩) unfit
  | error fault =>
    refine ⟨fault, (refuses fault).mp written, fun other first => ?_⟩
    exact Except.error.inj (((refuses other).mpr first).symm.trans written)

/-- Writing that is not stopped succeeds for just those values that fit their types. Any others end it with the first
misfit from the left, of which there is one: a wrong number of values, before any of these is looked at, or the innermost
value that is not of its type's kind or has more bytes than its type. Writing is not stopped if all lists and heads can be
addressed. -/
theorem encode?_accepts_iff {types : List AbiType} {values : List AbiValue} (narrow : EveryAll Narrow types) :
    (∀ outcome, encode? types values = some outcome →
      ((∃ data, outcome = .ok data) ↔ FitAll types values) ∧
        ∀ fault, outcome = .error fault ↔ FirstMisfit types values fault) ∧
      (Addressed types values → ∃ outcome, encode? types values = some outcome) ∧
      (¬FitAll types values → ∃! fault, FirstMisfit types values fault) ∧
      (∀ expected actual, (EncodeFault.wrongCount expected actual).message =
        s!"expected {expected} values, got {actual}") ∧
      ∀ value type, (EncodeFault.misfit value type).message =
        s!"value {value.toString} does not fit type {type.toString}" := by
  refine ⟨fun outcome ended => ?_, fun addressed => ⟨_, encode?_of_addressed addressed⟩,
    existsUnique_firstMisfit narrow, fun _ _ => rfl, fun _ _ => rfl⟩
  rw [← encode?_eq_some ended]
  exact encode_accepts_iff narrow

/-- Three bytes are too many for a pair of bytes inside of a tuple; that the next member and the last value do not fit
either comes too late. The number of members comes before what they are. -/
theorem encode?_accepts_iff_inner :
    let pair : AbiType := .tuple [.fixedBytes 2, .uint 8]
    let types : List AbiType := [.bool, .fixedArray pair 1, .array .address]
    let values : List AbiValue :=
      [.bool true, .fixedArray [.tuple [.fixedBytes [1, 2, 3], .string "no"]], .array [.bool false]]
    Addressed types values ∧ (∃ outcome, encode? types values = some outcome) ∧
      FirstMisfit types values (.misfit (.fixedBytes [1, 2, 3]) (.fixedBytes 2)) ∧
      FirstMisfit [.fixedArray pair 1] [.fixedArray [.tuple [.bool true]]] (.wrongCount 2 1) ∧
      FitAll [.fixedArray pair 1] [.fixedArray [.tuple [.fixedBytes [], .uint 300]]] := by
  intro pair types values
  have addressed : Addressed types values :=
    ⟨by simp [types, pair, EveryAll, Every, Modest, headWidth, headWidths, anyDynamic, isDynamic], by decide,
      by simp [types, values, pair, CompactAll, Compact, headWidth]⟩
  obtain ⟨long, ends, -⟩ := @encode?_accepts_iff types values (by simp [types, pair, EveryAll, Every, Narrow])
  obtain ⟨few, -⟩ := @encode?_accepts_iff [.fixedArray pair 1] [.fixedArray [.tuple [.bool true]]]
    (by simp [pair, EveryAll, Every, Narrow])
  obtain ⟨wide, -⟩ := @encode?_accepts_iff [.fixedArray pair 1] [.fixedArray [.tuple [.fixedBytes [], .uint 300]]]
    (by simp [pair, EveryAll, Every, Narrow])
  exact ⟨addressed, ends addressed, ((long _ rfl).2 _).mp rfl, ((few _ rfl).2 _).mp rfl, (wide _ rfl).1.mp ⟨_, rfl⟩⟩

/-- No items are too few for an array of `2 ^ 61`, and there is a fault that says so; but the list of their types comes
first, and it is too long. -/
theorem encode?_oversized :
    let types : List AbiType := [.fixedArray (.tuple []) 2305843009213693952]
    let values : List AbiValue := [.fixedArray []]
    EveryAll Narrow types ∧ ¬FitAll types values ∧ FirstMisfit types values (.wrongCount 2305843009213693952 0) ∧
      encode? types values = none := by
  intro types values
  have narrow : EveryAll Narrow types := ⟨⟨trivial, trivial, trivial⟩, trivial⟩
  have refused : encode types values = .error (.wrongCount 2305843009213693952 0) := rfl
  obtain ⟨accepts, refuses⟩ := @encode_accepts_iff types values narrow
  refine ⟨narrow, fun fits => ?_, (refuses _).mp refused, rfl⟩
  obtain ⟨data, made⟩ := accepts.mpr fits
  rw [refused] at made
  cases made

end ChainScript.Abi
