import ChainScript.Dispatch
import ChainScript.Proofs.FirstMatch

/-! Commands that are told apart by their names can stand in any order. An event has one name word at the place where
they all look, so at most one of them recognises it, and a catchall behind them gets just the events that none of them
recognises. Queries are listed and searched in the same way. -/

namespace ChainScript

variable {World Value Result Entry : Type}

/-- The word of an event at a place among its members. -/
def Event.wordAt? (position : Nat) (event : Event) : Option String :=
  event.unwrap.items[position]? >>= token?

namespace Pattern

theorem sameName_iff {left right : String} :
    sameName left right = true ↔
      Text.lowercase (Text.trim left.toList) = Text.lowercase (Text.trim right.toList) :=
  decide_eq_true_iff

/-- A pattern that is no catchall looks at one word only. -/
theorem recognises_iff {pattern : Pattern World Value} (specific : pattern.catchall = false) (event : Event) :
    pattern.recognises event = true ↔
      ∃ token, event.wordAt? pattern.namePosition = some token ∧ sameName token pattern.name = true := by
  rw [recognises, split, specific, Event.wordAt?]
  simp only [Bool.false_or, Bool.false_eq_true, if_false]
  cases event.unwrap.items[pattern.namePosition]? with
  | none => simp
  | some member => cases member <;> simp [Event.token?]

/-- Patterns that are told apart by their names: none is a catchall, all look for the name in the same place, and no
two names are the same but for case and margins. -/
structure Apart (patterns : List (Pattern World Value)) : Prop where
  specific : ∀ pattern ∈ patterns, pattern.catchall = false
  position : ∃ position, ∀ pattern ∈ patterns, pattern.namePosition = position
  names : patterns.Pairwise fun first second => sameName first.name second.name = false

theorem Apart.exclusive {patterns : List (Pattern World Value)} (apart : Apart patterns) (event : Event) :
    Exclusive (·.recognises event) patterns := by
  obtain ⟨position, placed⟩ := apart.position
  refine apart.names.imp_of_mem ?_
  rintro first second one other differ ⟨recognised, again⟩
  obtain ⟨token, word, same⟩ := (recognises_iff (apart.specific first one) event).mp recognised
  obtain ⟨token', word', same'⟩ := (recognises_iff (apart.specific second other) event).mp again
  -- Both look at the same word.
  rw [placed first one] at word
  rw [placed second other, word] at word'
  cases word'
  rw [sameName_iff] at same same'
  exact Bool.eq_false_iff.mp differ (sameName_iff.mpr (same.symm.trans same'))

end Pattern

/-- The entry of a list that an event goes to. -/
def chosen? (pattern : Entry → Pattern World Value) (event : Event) (entries : List Entry) : Option Entry :=
  entries.find? fun entry => (pattern entry).recognises event

section
variable {pattern : Entry → Pattern World Value} {specific : List Entry} {last : Option Entry}

theorem exclusive_of_apart (apart : Pattern.Apart (specific.map pattern)) (event : Event) :
    Exclusive (fun entry => (pattern entry).recognises event) specific :=
  List.pairwise_map.mp (apart.exclusive event)

/-- A catchall gets what is left. -/
theorem chosen?_append (catchall : ∀ entry ∈ last, (pattern entry).catchall = true) (event : Event)
    (entries : List Entry) :
    chosen? pattern event (entries ++ last.toList) = (chosen? pattern event entries).or last := by
  rw [chosen?, List.find?_append, chosen?]
  congr 1
  cases last with
  | none => rfl
  | some entry =>
    apply List.find?_cons_of_pos
    rw [Pattern.recognises, catchall entry rfl, Bool.true_or]

theorem chosen?_eq_none_iff {event : Event} {entries : List Entry} :
    chosen? pattern event entries = none ↔ ∀ entry ∈ entries, (pattern entry).recognises event = false := by
  rw [chosen?, List.find?_eq_none]
  simp only [Bool.not_eq_true]

theorem mem_of_chosen? {event : Event} {entries : List Entry} {entry : Entry}
    (found : chosen? pattern event entries = some entry) : entry ∈ entries :=
  List.mem_of_find?_eq_some found

theorem recognises_of_chosen? {event : Event} {entries : List Entry} {entry : Entry}
    (found : chosen? pattern event entries = some entry) : (pattern entry).recognises event = true := by
  unfold chosen? at found
  exact List.find?_some (p := fun entry => (pattern entry).recognises event) found

end

theorem Command.processFirst_eq_elim (kind : String) (commands : List (Command World Value)) (world : World)
    (event : Event) (caller : Option Address) :
    Command.processFirst kind commands world event caller =
      (chosen? (·.pattern) event commands).elim (.error (.unknownEvent kind event)) (·.process world caller event) := by
  rw [Command.processFirst, chosen?]
  cases commands.find? (·.pattern.recognises event) <;> rfl

theorem Query.askFirst_eq_elim (kind : String) (queries : List (Query World Value Result)) (world : World)
    (event : Event) :
    Query.askFirst kind queries world event =
      (chosen? (·.pattern) event queries).elim (.error (.unknownEvent kind event)) (·.ask world event) := by
  rw [Query.askFirst, chosen?]
  cases queries.find? (·.pattern.recognises event) <;> rfl

/-- How an event finds its entry in a list of specific entries with perhaps a catchall behind them, where `dispatch`
searches a list and `act` is what an entry does. -/
structure InAnyOrder (pattern : Entry → Pattern World Value) (event : Event) (specific : List Entry)
    (last : Option Entry) (dispatch : List Entry → Result) (act : Entry → Result) : Prop where
  atMostOne : Exclusive (fun entry => (pattern entry).recognises event) specific
  permuted : ∀ others, specific.Perm others → dispatch (others ++ last.toList) = dispatch (specific ++ last.toList)
  recognised : ∀ entry ∈ specific, (pattern entry).recognises event = true →
    chosen? pattern event (specific ++ last.toList) = some entry
  leftOver : ∀ entry ∈ last, chosen? pattern event (specific ++ last.toList) = some entry ↔
    ∀ other ∈ specific, (pattern other).recognises event = false
  runs : ∀ entry, chosen? pattern event (specific ++ last.toList) = some entry →
    dispatch (specific ++ last.toList) = act entry

theorem inAnyOrder_of_apart {pattern : Entry → Pattern World Value} {event : Event} {specific : List Entry}
    {last : Option Entry} {dispatch : List Entry → Result} {act : Entry → Result} (unknown : Result)
    (apart : Pattern.Apart (specific.map pattern)) (catchall : ∀ entry ∈ last, (pattern entry).catchall = true)
    (searches : ∀ entries, dispatch entries = (chosen? pattern event entries).elim unknown act) :
    InAnyOrder pattern event specific last dispatch act where
  atMostOne := exclusive_of_apart apart event
  permuted others same := by
    have found : chosen? pattern event specific = chosen? pattern event others :=
      (exclusive_of_apart apart event).find?_perm same
    rw [searches, searches, chosen?_append catchall, chosen?_append catchall, found]
  recognised entry member own := by
    have found : chosen? pattern event specific = some entry :=
      (exclusive_of_apart apart event).find?_eq_some_iff.mpr ⟨member, own⟩
    rw [chosen?_append catchall, found, Option.some_or]
  leftOver entry behind := by
    rw [chosen?_append catchall, ← chosen?_eq_none_iff]
    cases found : chosen? pattern event specific with
    | none => simpa using behind
    | some other =>
      -- The entry that was found is specific, so it is not the catchall.
      have inside : other ∈ specific := List.mem_of_find?_eq_some found
      have own := apart.specific (pattern other) (List.mem_map_of_mem inside)
      have differs : other ≠ entry := fun same =>
        Bool.false_ne_true (own.symm.trans (same ▸ catchall entry behind))
      simpa using differs
  runs entry found := by rw [searches, found, Option.elim_some]

/-- Commands that are told apart by their names give the same world or the same error in any order: at most one of them
recognises an event, and a catchall behind them is run exactly if none does. The same holds of queries. -/
theorem dispatch_in_any_order :
    (∀ (specific : List (Command World Value)) (last : Option (Command World Value)),
      Pattern.Apart (specific.map (·.pattern)) → (∀ command ∈ last, command.pattern.catchall = true) →
        ∀ kind world event caller, InAnyOrder (·.pattern) event specific last
          (Command.processFirst kind · world event caller) (·.process world caller event)) ∧
    (∀ (specific : List (Query World Value Result)) (last : Option (Query World Value Result)),
      Pattern.Apart (specific.map (·.pattern)) → (∀ query ∈ last, query.pattern.catchall = true) →
        ∀ kind world event, InAnyOrder (·.pattern) event specific last
          (Query.askFirst kind · world event) (·.ask world event)) := by
  constructor
  · intro specific last apart catchall kind world event caller
    exact inAnyOrder_of_apart _ apart catchall fun commands =>
      Command.processFirst_eq_elim kind commands world event caller
  · intro specific last apart catchall kind world event
    exact inAnyOrder_of_apart _ apart catchall fun queries => Query.askFirst_eq_elim kind queries world event

/-- The second of two commands acts in either order, and the catchall behind them acts on an event without a name; of
two queries the first answers in either order. -/
theorem dispatch_in_any_order_swapped :
    let named (name : String) (catchall : Bool) : Pattern Nat Unit :=
      { name, doc := "", params := [], catchall, slots_agree := rfl }
    let adding (name : String) (catchall : Bool) (amount : Nat) : Command Nat Unit :=
      ⟨named name catchall, .view fun _ => .ok fun counted => .ok (counted + amount)⟩
    let telling (name answer : String) : Query Nat Unit String := ⟨named name false, fun _ _ => .ok answer⟩
    let one := adding " One" false 1
    let two := adding "TWO" false 2
    let rest := adding "rest" true 100
    let spoken : Event := .group [.word "two "]
    Command.processFirst "Core" [one, two, rest] 5 spoken none = .ok 7 ∧
      Command.processFirst "Core" [two, one, rest] 5 spoken none = .ok 7 ∧
      Command.processFirst "Core" [one, two, rest] 5 (.group []) none = .ok 105 ∧
      Query.askFirst "Value" [telling "Two" "pair", telling "one" "unit"] 5 spoken = .ok "pair" ∧
      Query.askFirst "Value" [telling "one" "unit", telling "Two" "pair"] 5 spoken = .ok "pair" := by
  intro named adding telling one two rest spoken
  obtain ⟨commands, queries⟩ := @dispatch_in_any_order Nat Unit String
  have apart : Pattern.Apart ([one, two].map (·.pattern)) := ⟨by decide, ⟨0, by decide⟩, by decide⟩
  have ordered (event : Event) := commands [one, two] (some rest) apart (by decide) "Core" 5 event none
  have found := (ordered spoken).runs two ((ordered spoken).recognised two (by simp) (by decide))
  have again := (ordered spoken).permuted [two, one] (.swap two one [])
  have left := (ordered (.group [])).runs rest (((ordered (.group [])).leftOver rest rfl).mpr (by decide))
  have asked := queries [telling "Two" "pair", telling "one" "unit"] none ⟨by decide, ⟨0, by decide⟩, by decide⟩
    (by decide) "Value" 5 spoken
  have answer := asked.runs (telling "Two" "pair") (asked.recognised _ (by simp) (by decide))
  have swapped := asked.permuted [telling "one" "unit", telling "Two" "pair"] (.swap _ _ [])
  exact ⟨found, again.trans found, left, answer, swapped.trans answer⟩

end ChainScript
