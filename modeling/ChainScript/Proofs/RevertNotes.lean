import ChainScript.Chain.RunError
import ChainScript.Proofs.Numerals

/-! Which refusals are reverts. The note is looked for from the end of the message: digits stop at the parenthesis that
opens, so whatever the text in front of them ends in, a message holds one note at most. -/

namespace ChainScript
open Text

namespace RevertNote

/-- A message of the note's text, which is one line, and the digits of its code in parentheses behind a space. -/
structure Told (note : RevertNote) (message : String) : Prop where
  line : '\n' ∉ note.text.toList
  made : ∃ digits, Digits digits note.code.toNat ∧
    message = note.text ++ " (" ++ String.ofList digits ++ ")"

private theorem reverse_toList (text : String) (digits : List Char) :
    (text ++ " (" ++ String.ofList digits ++ ")").toList.reverse =
      ')' :: (digits.reverse ++ '(' :: ' ' :: text.toList.reverse) := by
  simp

theorem told_of_ofString? {message : String} {note : RevertNote} (read : ofString? message = some note) :
    note.Told message := by
  unfold ofString? at read
  split at read
  next reversed turned =>
    dsimp only at read
    split at read
    next text stopped =>
      split at read
      next => cases read
      next kept =>
        simp only [Bool.or_eq_true, not_or, List.isEmpty_iff, List.contains_iff_mem] at kept
        obtain ⟨some, line⟩ := kept
        obtain ⟨code, sized, made⟩ := Option.bind_eq_some_iff.mp read
        cases made
        obtain ⟨spelled, fits⟩ := Option.filter_eq_some_iff.mp sized
        obtain ⟨each, number⟩ := decimal?_eq_some_iff.mp spelled
        have room : code < 2 ^ 64 := of_decide_eq_true fits
        have same : (UInt64.ofNat code).toNat = code := UInt64.toNat_ofNat_of_lt' room
        have whole := List.takeWhile_append_dropWhile (p := isDigit) (l := reversed)
        rw [stopped] at whole
        refine ⟨?_, _, ⟨some, each, same.symm ▸ number, same.symm ▸ room⟩, ?_⟩
        · rw [String.toList_ofList, List.mem_reverse]
          exact line
        · rw [← String.toList_inj, ← List.reverse_inj, turned, reverse_toList, List.reverse_reverse,
            String.toList_ofList, List.reverse_reverse, whole]
    next => cases read
  next => cases read

theorem ofString?_of_told {message : String} {note : RevertNote} (told : note.Told message) :
    ofString? message = some note := by
  obtain ⟨digits, code, rfl⟩ := told.made
  have each : ∀ c ∈ digits.reverse, isDigit c = true := fun c member => code.each c (List.mem_reverse.mp member)
  -- No more is taken for digits than the code has, whatever the text ends in.
  have stop : isDigit '(' = false := rfl
  have taken : (digits.reverse ++ '(' :: ' ' :: note.text.toList.reverse).takeWhile isDigit = digits.reverse := by
    rw [List.takeWhile_append_of_pos each, List.takeWhile_cons_of_neg (by simp [stop]), List.append_nil]
  have left : (digits.reverse ++ '(' :: ' ' :: note.text.toList.reverse).dropWhile isDigit =
      '(' :: ' ' :: note.text.toList.reverse := by
    rw [List.dropWhile_append_of_pos each, List.dropWhile_cons_of_neg (by simp [stop])]
  have kept : ¬(digits.isEmpty || note.text.toList.reverse.contains '\n') = true := by
    simp [code.some, told.line]
  have sized : (decimal? digits).filter (· < UInt64.size) = some note.code.toNat :=
    Option.filter_eq_some_iff.mpr
      ⟨decimal?_eq_some_iff.mpr ⟨code.each, code.number⟩, decide_eq_true code.fits⟩
  unfold ofString?
  rw [reverse_toList]
  simp only [left, taken, List.reverse_reverse, if_neg kept, sized]
  simp

theorem ofString?_eq_some_iff {message : String} {note : RevertNote} :
    ofString? message = some note ↔ note.Told message :=
  ⟨told_of_ofString?, ofString?_of_told⟩

theorem Told.unique {message : String} {note other : RevertNote} (told : note.Told message)
    (again : other.Told message) : note = other :=
  Option.some.inj ((ofString?_of_told told).symm.trans (ofString?_of_told again))

theorem told_toString {text : String} (code : UInt64) (line : '\n' ∉ text.toList) :
    Told ⟨text, code⟩ (text ++ " (" ++ toString code ++ ")") := by
  refine ⟨line, (toString code).toList, digits_toString code.toNat_lt, ?_⟩
  rw [String.ofList_toList]

end RevertNote

namespace RunError
open RevertNote

/-- The note of a revert is read from a message exactly when the message is its text, of one line, and its code behind
it; there is one such note at most. A text of one line is found again whatever it ends in, with every code of 64 bits. A
refusal of either kind is classified by the note of its message, and kept as it is. -/
theorem reverts_recognised (message : String) :
    (∀ note, ofString? message = some note ↔ note.Told message) ∧
      (∀ note other : RevertNote, note.Told message → other.Told message → note = other) ∧
      (∀ text (code : UInt64), '\n' ∉ text.toList →
        ofString? (text ++ " (" ++ toString code ++ ")") = some ⟨text, code⟩) ∧
      ∀ cause resolve, cause = .rejected message ∨ cause = .transport message →
        (∀ note : RevertNote, note.Told message ↔ classify cause resolve = .revert cause note (resolve note.code)) ∧
          ((∀ note : RevertNote, ¬note.Told message) ↔ classify cause resolve = .transport cause) := by
  refine ⟨fun note => ofString?_eq_some_iff, fun note other => Told.unique,
    fun text code line => ofString?_of_told (told_toString code line), fun cause resolve either => ?_⟩
  have content : cause.text = message := by
    rcases either with rfl | rfl
    · rfl
    · rfl
  simp only [← ofString?_eq_some_iff]
  rw [classify, content]
  cases ofString? message with
  | some note => simp
  | none => simp

/-- The text in front of the last code may end in a code itself, and zeros may lead; a second line is no text. -/
theorem reverts_recognised_last :
    Told ⟨"a (1) b (2)", 3⟩ "a (1) b (2) (03)" ∧
      (∀ resolve, classify (.transport "a (1) b (2) (03)") resolve =
        .revert (.transport "a (1) b (2) (03)") ⟨"a (1) b (2)", 3⟩ (resolve 3)) ∧
      (∀ resolve, classify (.rejected "a\nb (2)") resolve = .transport (.rejected "a\nb (2)")) ∧
      ofString? "a (1) b (2) (18446744073709551615)" = some ⟨"a (1) b (2)", 18446744073709551615⟩ := by
  obtain ⟨reads, -, writes, classified⟩ := reverts_recognised "a (1) b (2) (03)"
  obtain ⟨others, -, -, refused⟩ := reverts_recognised "a\nb (2)"
  have told : Told ⟨"a (1) b (2)", 3⟩ "a (1) b (2) (03)" := (reads _).mp (by decide)
  have none : ∀ note, ¬Told note "a\nb (2)" := by
    intro note two
    have read := (others note).mpr two
    have unread : ofString? "a\nb (2)" = none := by decide
    rw [unread] at read
    cases read
  exact ⟨told, fun resolve => ((classified _ resolve (.inr rfl)).1 _).mp told,
    fun resolve => (refused _ resolve (.inl rfl)).2.mp none, writes "a (1) b (2)" 18446744073709551615 (by decide)⟩

end RunError

end ChainScript
