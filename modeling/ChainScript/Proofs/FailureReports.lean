import ChainScript.Proofs.FailureEntries

/-! The failures of a receipt, entry by entry, and how their codes are shown. A code of more than 64 bits is never looked
up: it is shown in full. Of two tables the second gives names to details only, and only through its errors. -/

namespace ChainScript

namespace Abi

theorem toBytes_wordAt {data : Bytes} {position : Nat} (inside : position + 32 ≤ data.length) :
    (wordAt data position).toBytes = (data.drop position).take 32 := by
  have size : ((data.drop position).take 32).length = 32 := by
    rw [List.length_take, List.length_drop]
    omega
  have room : numberOf ((data.drop position).take 32) < 2 ^ 256 := by
    have bound := numberOf_lt ((data.drop position).take 32)
    rw [size] at bound
    exact bound
  rw [wordAt, Word.toBytes, Word.ofBytes, BitVec.toNat_ofNat, Nat.mod_eq_of_lt room, bytesOf_numberOf size]

theorem wordAt_append {data front back : Bytes} {word : Word} (whole : data = front ++ word.toBytes ++ back) :
    wordAt data front.length = word := by
  rw [wordAt, whole, List.append_assoc, List.drop_left, ← word.length_toBytes, List.take_left, Word.ofBytes_toBytes]

end Abi

theorem Word.toUInt64?_eq_some_iff {word : Word} {short : UInt64} :
    word.toUInt64? = some short ↔ word.toNat = short.toNat := by
  unfold toUInt64?
  split
  next room =>
    rw [Option.some.injEq, ← UInt64.toNat_inj, UInt64.toNat_ofNat_of_lt' room]
  next wide =>
    have bound : short.toNat < UInt64.size := short.toNat_lt
    constructor
    · intro none
      cases none
    · intro same
      exact absurd (same ▸ bound) wide

theorem Word.toUInt64?_eq_none_iff {word : Word} : word.toUInt64? = none ↔ 2 ^ 64 ≤ word.toNat := by
  simp [toUInt64?, UInt64.size]

namespace CodeTable

/-- The name that the other contract has for a detail: the error is the one that rejects, and the errors of the other
contract have the detail among them. -/
inductive Delegates (table : CodeTable) (error detail : UInt64) : String → Prop where
  | mk {name resolved : String} {delegate : Reporter} (rejection : table.rejection = some (name, delegate))
      (rejects : table.errors[error.toNat]? = some name) (known : delegate.error? detail = some resolved) :
      Delegates table error detail resolved

theorem delegated?_eq_some_iff {table : CodeTable} {error detail : UInt64} {resolved : String} :
    table.delegated? error detail = some resolved ↔ table.Delegates error detail resolved := by
  unfold delegated? error?
  constructor
  · intro found
    obtain ⟨⟨name, delegate⟩, rejection, found⟩ := Option.bind_eq_some_iff.mp found
    dsimp only at found
    split at found
    next rejects => exact .mk rejection rejects found
    next => cases found
  · rintro ⟨rejection, rejects, known⟩
    rw [rejection, Option.bind_eq_bind, Option.bind_some]
    dsimp only
    rw [if_pos rejects, known]

theorem detail_reporter (table : CodeTable) (error detail : UInt64) :
    (∀ resolved, table.Delegates error detail resolved → table.reporter.detail error detail = resolved) ∧
      ((∀ resolved, ¬table.Delegates error detail resolved) →
        table.reporter.detail error detail = toString detail) := by
  simp only [← delegated?_eq_some_iff]
  change (∀ resolved, _ → (table.delegated? error detail).getD (toString detail) = resolved) ∧
    (_ → (table.delegated? error detail).getD (toString detail) = toString detail)
  cases table.delegated? error detail with
  | some resolved => simp
  | none => simp

/-- The names that a table takes from another depend on the errors of that one only. -/
theorem detail_congr (table : CodeTable) (name : String) {one other : CodeTable} (same : one.errors = other.errors) :
    { table with rejection := some (name, one.reporter) }.reporter.detail =
      { table with rejection := some (name, other.reporter) }.reporter.detail := by
  have named : one.reporter.error? = other.reporter.error? := by
    funext code
    exact congrArg (·[code.toNat]?) same
  funext error detail
  change (delegated? _ error detail).getD _ = (delegated? _ error detail).getD _
  rw [delegated?, delegated?]
  dsimp only [Option.bind_eq_bind, Option.bind_some]
  rw [named]
  rfl

end CodeTable

namespace Failure
open Abi

/-- A code is shown by its name if it has 64 bits and a name, and by its number otherwise. -/
inductive Shows (label : String) (name? : UInt64 → Option String) (code : Word) : String → Prop where
  | named {short : UInt64} {name : String} (fits : code.toNat = short.toNat) (known : name? short = some name) :
      Shows label name? code name
  | unnamed {short : UInt64} (fits : code.toNat = short.toNat) (unknown : name? short = none) :
      Shows label name? code (label ++ ToString.toString code.toNat)
  | wide (wide : 2 ^ 64 ≤ code.toNat) : Shows label name? code (label ++ ToString.toString code.toNat)

/-- A detail is left to the reporter if it and its error have 64 bits, and shown by its number otherwise. -/
inductive Details (reporter : Reporter) (error detail : Word) : String → Prop where
  | reported {rejected short : UInt64} (fits : error.toNat = rejected.toNat) (also : detail.toNat = short.toNat) :
      Details reporter error detail (reporter.detail rejected short)
  | wide (wide : 2 ^ 64 ≤ error.toNat ∨ 2 ^ 64 ≤ detail.toNat) :
      Details reporter error detail ("unknown detail=" ++ ToString.toString detail.toNat)

/-- A failure that shows these codes. -/
structure Tells (reporter : Reporter) (error info detail : Word) (failure : Failure) : Prop where
  named : Shows "unknown error=" reporter.error? error failure.error
  placed : Shows "unknown info=" reporter.info? info failure.info
  detailed : Details reporter error detail failure.detail

private theorem shows_iff {label text : String} {name? : UInt64 → Option String} {code : Word} :
    (code.toUInt64? >>= name?).getD (label ++ code.toDecimal) = text ↔ Shows label name? code text := by
  constructor
  · rintro rfl
    cases fit : code.toUInt64? with
    | none => exact .wide (Word.toUInt64?_eq_none_iff.mp fit)
    | some short =>
      have fits := Word.toUInt64?_eq_some_iff.mp fit
      cases known : name? short with
      | none =>
        rw [Option.bind_eq_bind, Option.bind_some, known]
        exact .unnamed fits known
      | some name =>
        rw [Option.bind_eq_bind, Option.bind_some, known]
        exact .named fits known
  · intro shown
    cases shown with
    | named fits known =>
      rw [Word.toUInt64?_eq_some_iff.mpr fits, Option.bind_eq_bind, Option.bind_some, known]
      rfl
    | unnamed fits unknown =>
      rw [Word.toUInt64?_eq_some_iff.mpr fits, Option.bind_eq_bind, Option.bind_some, unknown]
      rfl
    | wide wide =>
      rw [Word.toUInt64?_eq_none_iff.mpr wide]
      rfl

private theorem details_iff {reporter : Reporter} {error detail : Word} (info : Word) {text : String} :
    (ofCodes reporter error info detail).detail = text ↔ Details reporter error detail text := by
  unfold ofCodes
  constructor
  · rintro rfl
    dsimp only
    split
    next rejected short fit also =>
      exact .reported (Word.toUInt64?_eq_some_iff.mp fit) (Word.toUInt64?_eq_some_iff.mp also)
    next wide =>
      refine .wide ?_
      rw [← Word.toUInt64?_eq_none_iff, ← Word.toUInt64?_eq_none_iff]
      cases fit : error.toUInt64? with
      | none => exact .inl rfl
      | some rejected => exact .inr (Option.eq_none_iff_forall_ne_some.mpr fun short => wide rejected short fit)
  · intro detailed
    cases detailed with
    | reported fits also =>
      simp only [Word.toUInt64?_eq_some_iff.mpr fits, Word.toUInt64?_eq_some_iff.mpr also]
    | wide wide =>
      rcases wide with wide | wide
      · simp only [Word.toUInt64?_eq_none_iff.mpr wide]
        rfl
      · simp only [Word.toUInt64?_eq_none_iff.mpr wide]
        cases error.toUInt64? <;> rfl

theorem ofCodes_eq_iff {reporter : Reporter} {error info detail : Word} {failure : Failure} :
    ofCodes reporter error info detail = failure ↔ Tells reporter error info detail failure := by
  constructor
  · rintro rfl
    exact ⟨shows_iff.mp rfl, shows_iff.mp rfl, (details_iff info).mp rfl⟩
  · intro told
    cases failure
    exact congr (congrArg₂ Failure.mk (shows_iff.mpr told.named) (shows_iff.mpr told.placed))
      ((details_iff info).mpr told.detailed)

theorem exists_words {data : Bytes} (long : 96 ≤ data.length) :
    ∃ error info detail : Word, ∃ more, data = error.toBytes ++ info.toBytes ++ detail.toBytes ++ more := by
  refine ⟨wordAt data 0, wordAt data 32, wordAt data 64, data.drop 96, ?_⟩
  rw [toBytes_wordAt (by omega), toBytes_wordAt (by omega), toBytes_wordAt (by omega), List.drop_zero]
  have third := List.take_append_drop 32 (data.drop 64)
  have second := List.take_append_drop 32 (data.drop 32)
  have first := List.take_append_drop 32 data
  rw [List.drop_drop] at second third
  rw [List.append_assoc, List.append_assoc, third, second, first]

theorem ofEntry_of_words (reporter : Reporter) {entry : LogEntry} {error info detail : Word} {more : Bytes}
    (words : entry.data = error.toBytes ++ info.toBytes ++ detail.toBytes ++ more) :
    ofEntry reporter entry = ofCodes reporter error info detail := by
  have first : wordAt entry.data 0 = error :=
    @wordAt_append _ [] (info.toBytes ++ detail.toBytes ++ more) _ (by simp [words])
  have second := @wordAt_append entry.data error.toBytes (detail.toBytes ++ more) info (by simp [words])
  have third := wordAt_append words
  rw [List.length_append, error.length_toBytes, info.length_toBytes] at third
  rw [error.length_toBytes] at second
  rw [ofEntry, first, second, third]

/-- The failures of a receipt are those of the entries of the failure topic with room for three words, in order, each
told by its own words alone: parts of a receipt add up, and an entry that reports nothing can be taken out. A code is
shown by a name only if it has 64 bits, and a detail only if its error has too. The names that a table has for details are
those of the errors of another contract, for the error that rejects. -/
theorem failures_of_receipt (reporter : Reporter) (receipt : Receipt) :
    ofReceipt reporter receipt = (receipt.logs.filter (Reported ·)).map (ofEntry reporter) ∧
      (∀ entry, Reported entry → ∃ error info detail : Word, ∃ more,
        entry.data = error.toBytes ++ info.toBytes ++ detail.toBytes ++ more) ∧
      (∀ entry (error info detail : Word) more, entry.data = error.toBytes ++ info.toBytes ++ detail.toBytes ++ more →
        ofEntry reporter entry = ofCodes reporter error info detail) ∧
      (∀ first rest, receipt.logs = first ++ rest → ofReceipt reporter receipt =
        ofReceipt reporter { receipt with logs := first } ++ ofReceipt reporter { receipt with logs := rest }) ∧
      (∀ first entry rest, receipt.logs = first ++ entry :: rest → ¬Reported entry →
        ofReceipt reporter receipt = ofReceipt reporter { receipt with logs := first ++ rest }) ∧
      (∀ error info detail failure,
        ofCodes reporter error info detail = failure ↔ Tells reporter error info detail failure) ∧
      (∀ (table : CodeTable) error detail,
        (∀ name, table.Delegates error detail name → table.reporter.detail error detail = name) ∧
          ((∀ name, ¬table.Delegates error detail name) →
            table.reporter.detail error detail = ToString.toString detail.toNat)) ∧
      ∀ (table one other : CodeTable) name, one.errors = other.errors →
        { table with rejection := some (name, one.reporter) }.reporter.detail =
          { table with rejection := some (name, other.reporter) }.reporter.detail := by
  refine ⟨ofReceipt_eq reporter receipt, fun entry reported => exists_words reported.2,
    fun entry error info detail more => ofEntry_of_words reporter, ?_, ?_,
    fun error info detail failure => ofCodes_eq_iff, fun table error detail => table.detail_reporter error detail,
    fun table one other name => table.detail_congr name⟩
  · intro first rest whole
    rw [ofReceipt_eq, ofReceipt_eq, ofReceipt_eq, whole, List.filter_append, List.map_append]
  · intro first entry rest whole silent
    rw [ofReceipt_eq, ofReceipt_eq, whole, List.filter_append, List.filter_append,
      List.filter_cons_of_neg (by simp [silent])]

/-- The entry that is cut short changes nothing for the other two. An info of more than 64 bits is shown in full, although
its low bits have a name; the detail is named by the other contract once, and a number once. -/
theorem failures_of_receipt_rejected :
    let other : CodeTable := { errors := ["FINE", "PAUSED"] }
    let table : CodeTable :=
      { errors := ["OK", "REJECTED"], infos := ["ANY"], rejection := some ("REJECTED", other.reporter) }
    let entry (data : Bytes) : LogEntry := ⟨Octets.fill 20 0, [topic], data⟩
    let word (value : Nat) : Word := BitVec.ofNat 256 value
    let rejected := entry ((word 1).toBytes ++ (word (2 ^ 64)).toBytes ++ (word 1).toBytes ++ [7])
    let short := entry ((word 1).toBytes ++ (word 0).toBytes)
    let another := entry ((word 0).toBytes ++ (word 0).toBytes ++ (word 1).toBytes)
    ofReceipt table.reporter { logs := [rejected, short, another] } =
      [⟨"REJECTED", "unknown info=18446744073709551616", "PAUSED"⟩, ⟨"OK", "ANY", "1"⟩] := by
  intro other table entry word rejected short another
  obtain ⟨-, -, reads, -, taken, told, delegated, -⟩ :=
    failures_of_receipt table.reporter { logs := [rejected, short, another] }
  obtain ⟨listed, -⟩ := failures_of_receipt table.reporter { logs := [rejected, another] }
  have silent : ¬Reported short := by simp [Reported, short, entry, Word.length_toBytes]
  have both : [rejected, another].filter (Reported ·) = [rejected, another] := by
    simp [Reported, rejected, another, entry, Word.length_toBytes]
  have one : (word 1).toNat = (1 : UInt64).toNat := rfl
  have zero : (word 0).toNat = (0 : UInt64).toNat := rfl
  have first : ofEntry table.reporter rejected = ⟨"REJECTED", "unknown info=18446744073709551616", "PAUSED"⟩ := by
    have named : table.reporter.detail 1 1 = "PAUSED" := (delegated table 1 1).1 _ (.mk rfl rfl rfl)
    have detailed : Details table.reporter (word 1) (word 1) "PAUSED" := named ▸ .reported one one
    have number : (word (2 ^ 64)).toNat = 18446744073709551616 := rfl
    have placed : Shows "unknown info=" table.reporter.info? (word (2 ^ 64)) "unknown info=18446744073709551616" := by
      have shown : Shows "unknown info=" table.reporter.info? (word (2 ^ 64)) _ := .wide (Nat.le_of_eq number.symm)
      rwa [number] at shown
    exact (reads rejected _ _ _ [7] rfl).trans ((told _ _ _ _).mpr ⟨.named one rfl, placed, detailed⟩)
  have second : ofEntry table.reporter another = ⟨"OK", "ANY", "1"⟩ := by
    have numbered : table.reporter.detail 0 1 = "1" := by
      refine (delegated table 0 1).2 fun name named => ?_
      cases named with
      | mk rejection rejects =>
        cases rejection
        exact absurd (Option.some.inj rejects) (by decide)
    have detailed : Details table.reporter (word 0) (word 1) "1" := numbered ▸ .reported zero one
    exact (reads another _ _ _ [] (List.append_nil _).symm).trans
      ((told _ _ _ _).mpr ⟨.named zero rfl, .named zero rfl, detailed⟩)
  rw [taken [rejected] short [another] rfl silent]
  refine listed.trans ?_
  rw [both, List.map_cons, List.map_cons, List.map_nil, first, second]

end Failure

end ChainScript
