import ChainScript.Proofs.LetterCase
import ChainScript.Proofs.DispatchOrder

/-! What decides whether a pattern that is no catchall recognises an event. It is the one word at the place of the name,
compared without the blanks around it and in lower case: neither the other members of the event nor the rest of the
pattern is looked at, and neither margins nor the case of the letters of the alphabet tell two words apart. -/

namespace ChainScript

variable {World Value : Type}

namespace Text

/-- A text with other cases of the letters of the alphabet and with blanks around it. -/
def Restyled (text other : List Char) : Prop :=
  ∃ front inner back, Blank front ∧ Blank back ∧ other = front ++ inner ++ back ∧ small inner = small text

theorem Restyled.refl (text : List Char) : Restyled text text :=
  ⟨[], text, [], List.forall_mem_nil _, List.forall_mem_nil _, (List.append_nil text).symm, rfl⟩

theorem lowercase_trim_of_restyled {text other : List Char} (restyled : Restyled text other) :
    lowercase (trim other) = lowercase (trim text) := by
  obtain ⟨front, inner, back, before, behind, rfl, same⟩ := restyled
  calc lowercase (trim (front ++ inner ++ back))
      = lowercase (trim inner) := by rw [trim_margins before behind]
    _ = lowercase (trim (small inner)) := by rw [trim_small, lowercase_small]
    _ = lowercase (trim (small text)) := by rw [same]
    _ = lowercase (trim text) := by rw [trim_small, lowercase_small]

/-- No blank at either end. -/
def Unpadded (text : List Char) : Prop :=
  (∀ c ∈ text.head?, isBlank c = false) ∧ ∀ c ∈ text.getLast?, isBlank c = false

instance : DecidablePred Unpadded := fun text =>
  @instDecidableAnd _ _ text.head?.decidableForallMem text.getLast?.decidableForallMem

theorem trim_of_unpadded {text : List Char} (unpadded : Unpadded text) : trim text = text := by
  have start : trimStart text = text := by
    refine List.dropWhile_eq_self_iff.mpr fun inside => Bool.eq_false_iff.mp (unpadded.1 _ ?_)
    rw [List.head?_eq_getElem?, List.getElem?_eq_getElem inside]
    rfl
  have finish : trimEnd text = text :=
    List.rdropWhile_eq_self_iff.mpr fun some =>
      Bool.eq_false_iff.mp (unpadded.2 _ (List.getLast?_eq_getLast_of_ne_nil some))
  rw [trim, start, finish]

end Text

open Text

namespace Pattern

/-- Whether a member of an event, if there is one, is a word for the name. -/
def tells (member : Option Event) (name : String) : Bool :=
  match member with
  | some (.word token) => sameName token name
  | _ => false

theorem sameName_of_restyled {left right left' right' : String} (first : Restyled left.toList left'.toList)
    (second : Restyled right.toList right'.toList) : sameName left' right' = sameName left right := by
  unfold sameName
  rw [lowercase_trim_of_restyled first, lowercase_trim_of_restyled second]

section
variable {pattern : Pattern World Value} (specific : pattern.catchall = false)
include specific

theorem recognises_eq_tells (event : Event) :
    pattern.recognises event = tells event.unwrap.items[pattern.namePosition]? pattern.name := by
  rw [recognises, split, specific]
  cases event.unwrap.items[pattern.namePosition]? with
  | none => rfl
  | some member => cases member <;> rfl

/-- A pattern that is no catchall recognises an event just if the member at the place of the name, with a redundant
layer around the event taken off, is a word whose lower case without margins is that of the name. So all events with the
same member there are recognised alike, and all patterns that differ in their documentation, their parameters or the
patterns listed with them recognise the same events. Blanks around the word or the name and the case of letters of the
alphabet in them change nothing; without such blanks, and without other letters, the two agree just if their small
letters do. -/
theorem matching_reads_name_only :
    let place (event : Event) := event.unwrap.items[pattern.namePosition]?
    (∀ event, pattern.recognises event = true ↔ ∃ token, place event = some (.word token) ∧
      lowercase (trim token.toList) = lowercase (trim pattern.name.toList)) ∧
    (∀ first second, place first = place second → pattern.recognises first = pattern.recognises second) ∧
    (∀ other : Pattern World Value, other.name = pattern.name → other.namePosition = pattern.namePosition →
      other.catchall = pattern.catchall → ∀ event, other.recognises event = pattern.recognises event) ∧
    (∀ first second token retold, place first = some (.word token) → place second = some (.word retold) →
      Restyled token.toList retold.toList → pattern.recognises second = pattern.recognises first) ∧
    (∀ other : Pattern World Value, Restyled pattern.name.toList other.name.toList →
      other.namePosition = pattern.namePosition → other.catchall = pattern.catchall →
      ∀ event, other.recognises event = pattern.recognises event) ∧
    ∀ event token, place event = some (.word token) → Ascii token.toList → Ascii pattern.name.toList →
      Unpadded token.toList → Unpadded pattern.name.toList →
      (pattern.recognises event = true ↔ small token.toList = small pattern.name.toList) := by
  intro place
  have reads (event : Event) : pattern.recognises event = tells (place event) pattern.name :=
    recognises_eq_tells specific event
  have readsToo {other : Pattern World Value} (placed : other.namePosition = pattern.namePosition)
      (alike : other.catchall = pattern.catchall) (event : Event) :
      other.recognises event = tells (place event) other.name := by
    rw [recognises_eq_tells (alike.trans specific), placed]
  refine ⟨?_, ?_, ?_, ?_, ?_, ?_⟩
  · intro event
    rw [reads]
    cases place event with
    | none => simp [tells]
    | some member => cases member <;> simp [tells, sameName_iff]
  · intro first second same
    rw [reads, reads, same]
  · intro other named placed alike event
    rw [readsToo placed alike, reads, named]
  · intro first second token retold one other restyled
    rw [reads, reads, one, other]
    exact sameName_of_restyled restyled (.refl pattern.name.toList)
  · intro other restyled placed alike event
    rw [readsToo placed alike, reads]
    cases place event with
    | none => rfl
    | some member =>
      cases member with
      | group => rfl
      | word token => exact sameName_of_restyled (.refl token.toList) restyled
  · intro event token found ascii asciiName unpadded unpaddedName
    rw [reads, found]
    change sameName token pattern.name = true ↔ _
    rw [sameName_iff, trim_of_unpadded unpadded, trim_of_unpadded unpaddedName, lowercase_of_ascii ascii,
      lowercase_of_ascii asciiName]

end

/-- A name that ends in a sigma is found in the second place of either event, with margins and in another case, and by a
pattern that is itself named so; a name of plain letters is told from a longer one. -/
theorem matching_reads_name_only_sigma :
    let named (name : String) (doc : String) : Pattern Unit Unit :=
      { name, doc, params := [], namePosition := 1, slots_agree := rfl }
    let wrapped : Event := .group [.group [.word "to", .word "GoΣ", .group []]]
    let padded : Event := .group [.group [], .word "\u2003gOΣ\n"]
    (named "GoΣ" "").catchall = false ∧ (named "GoΣ" "").recognises wrapped = true ∧
      (named "GoΣ" "").recognises (.group [.word "at", .word "GoΣ"]) = true ∧
      (named "GoΣ" "").recognises padded = true ∧ (named "GoΣ" "travel").recognises padded = true ∧
      (named " goΣ" "").recognises padded = true ∧
      (named "Pay" "").recognises (.group [.word "to", .word "pAY"]) = true ∧
      (named "Pay" "").recognises (.group [.word "to", .word "pays"]) = false := by
  intro named wrapped padded
  have specific (name doc : String) : (named name doc).catchall = false := rfl
  obtain ⟨reads, alike, documented, restyled, renamed, -⟩ := matching_reads_name_only (specific "GoΣ" "")
  have spoken : (named "GoΣ" "").recognises wrapped = true := (reads wrapped).mpr ⟨"GoΣ", rfl, rfl⟩
  have same := alike wrapped (.group [.word "at", .word "GoΣ"]) rfl
  have whispered : (named "GoΣ" "").recognises padded = true := by
    rw [restyled wrapped padded "GoΣ" "\u2003gOΣ\n" rfl rfl ⟨['\u2003'], "gOΣ".toList, ['\n'], by decide⟩]
    exact spoken
  have told := documented (named "GoΣ" "travel") rfl rfl rfl padded
  have called := renamed (named " goΣ" "") ⟨[' '], "goΣ".toList, [], by decide⟩ rfl rfl padded
  obtain ⟨-, -, -, -, -, plain⟩ := matching_reads_name_only (specific "Pay" "")
  have plainName : Unpadded "Pay".toList := by decide
  have heard := plain (.group [.word "to", .word "pAY"]) "pAY" rfl (by decide) (by decide) (by decide) plainName
  have passed := plain (.group [.word "to", .word "pays"]) "pays" rfl (by decide) (by decide) (by decide) plainName
  refine ⟨rfl, spoken, same.symm.trans spoken, whispered, told.trans whispered, called.trans whispered, ?_, ?_⟩
  · exact heard.mpr (by decide)
  · exact Bool.eq_false_iff.mpr (mt passed.mp (by decide))

end Pattern

end ChainScript
