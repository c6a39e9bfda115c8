import ChainScript.Proofs.JointReading

/-! How the words of an event are shared out. Each parameter takes a segment from the front of what the ones
before it left, so a successful binding cuts the words into one segment per parameter and uses them all. -/

namespace ChainScript

variable {World Value : Type}

/-- Takes one word: neither all that are left nor none. -/
def Slot.positional (slot : Slot) : Bool :=
  !slot.variadic && !slot.implicit

theorem Slot.positional_iff (slot : Slot) :
    slot.positional = true ↔ slot.variadic = false ∧ slot.implicit = false := by
  simp [positional]

/-- The words that a parameter takes from those that are left. -/
def Slot.share (slot : Slot) (words : List Event) : List Event :=
  if slot.variadic then words else if slot.implicit then [] else words.take 1

/-- The words that a parameter leaves. -/
def Slot.after (slot : Slot) (words : List Event) : List Event :=
  if slot.variadic then [] else if slot.implicit then words else words.drop 1

namespace Slot

theorem share_variadic (slot : Slot) (variadic : slot.variadic = true) (words : List Event) :
    slot.share words = words := by
  simp [share, variadic]

theorem share_implicit (slot : Slot) (single : slot.variadic = false) (implicit : slot.implicit = true)
    (words : List Event) : slot.share words = [] := by
  simp [share, single, implicit]

theorem share_positional (slot : Slot) (positional : slot.positional = true) (words : List Event) :
    slot.share words = words.take 1 := by
  obtain ⟨single, explicit⟩ := slot.positional_iff.mp positional
  simp [share, single, explicit]

theorem after_variadic (slot : Slot) (variadic : slot.variadic = true) (words : List Event) :
    slot.after words = [] := by
  simp [after, variadic]

theorem after_implicit (slot : Slot) (single : slot.variadic = false) (implicit : slot.implicit = true)
    (words : List Event) : slot.after words = words := by
  simp [after, single, implicit]

theorem after_positional (slot : Slot) (positional : slot.positional = true) (words : List Event) :
    slot.after words = words.drop 1 := by
  obtain ⟨single, explicit⟩ := slot.positional_iff.mp positional
  simp [after, single, explicit]

@[simp] theorem after_nil (slot : Slot) : slot.after [] = [] := by
  simp [after]

/-- The kinds of slots, in the order in which binding asks for them. -/
theorem kind_cases (slot : Slot) : slot.variadic = true ∨ (slot.variadic = false ∧ slot.implicit = true) ∨
    slot.positional = true := by
  cases variadic : slot.variadic with
  | true => exact .inl rfl
  | false =>
    cases implicit : slot.implicit with
    | true => exact .inr (.inl ⟨rfl, rfl⟩)
    | false => exact .inr (.inr (slot.positional_iff.mpr ⟨variadic, implicit⟩))

theorem share_append_after (slot : Slot) (words : List Event) : slot.share words ++ slot.after words = words := by
  rcases slot.kind_cases with variadic | ⟨single, implicit⟩ | positional
  · rw [slot.share_variadic variadic, slot.after_variadic variadic, List.append_nil]
  · rw [slot.share_implicit single implicit, slot.after_implicit single implicit, List.nil_append]
  · rw [slot.share_positional positional, slot.after_positional positional, List.take_append_drop]

end Slot

namespace Param

/-- The failure that is seen first when the events are read. -/
def FirstFault (param : Param World Value) (world : World) (events : List Event) (cause : ScriptError) : Prop :=
  ∃ before event after, events = before ++ event :: after ∧ param.read world (some event) = .error cause ∧
    SeenFirst (fun other => param.read world (some other)) (param.round world events.length) before event after

/-- What a word gives: the values of its members in order if the parameter is mapped, else its own value. -/
def Gives (param : Param World Value) (world : World) (word : Event) (binding : Binding Value) : Prop :=
  if param.mapped then
    ∃ values, word.items.map (fun event => param.read world (some event)) = values.map .ok ∧ .list values = binding
  else ∃ value, param.read world (some word) = .ok value ∧ .value value = binding

/-- A word cannot be read: one of its members if the parameter is mapped, else the word itself. -/
def Unreadable (param : Param World Value) (world : World) (word : Event) (cause : ScriptError) : Prop :=
  if param.mapped then param.FirstFault world word.items cause else param.read world (some word) = .error cause

theorem readEach_eq_ok {param : Param World Value} {world : World} {events : List Event} {values : List Value} :
    param.readEach world events = .ok values ↔
      events.map (fun event => param.read world (some event)) = values.map .ok := by
  rw [readEach, mapError_eq_ok, readTogether_eq_ok]

theorem readEach_eq_error {param : Param World Value} {world : World} {events : List Event} {cause : ScriptError} :
    param.readEach world events = .error cause ↔ param.FirstFault world events cause := by
  rw [readEach, mapError_eq_error]
  constructor
  · rintro ⟨fault, failed, rfl⟩
    obtain ⟨before, event, after, split, fails, -, first⟩ := seenFirst_of_readTogether failed
    exact ⟨before, event, after, split, fails, first⟩
  · rintro ⟨before, event, after, split, fails, first⟩
    have failed := readTogether_of_seenFirst fails first
    rw [← split] at failed
    exact ⟨_, failed, rfl⟩

theorem readWord_eq_ok {param : Param World Value} {world : World} {word : Event} {binding : Binding Value} :
    param.readWord world word = .ok binding ↔ param.Gives world word binding := by
  rw [readWord, Gives]
  split
  · simp only [map_eq_ok, readEach_eq_ok]
  · exact map_eq_ok

theorem readWord_eq_error {param : Param World Value} {world : World} {word : Event} {cause : ScriptError} :
    param.readWord world word = .error cause ↔ param.Unreadable world word cause := by
  rw [readWord, Unreadable]
  split
  · rw [map_eq_error, readEach_eq_error]
  · exact map_eq_error

/-- The words that are left are read like one word that groups them. -/
theorem bindRest_eq (param : Param World Value) (world : World) (words : List Event) :
    param.bindRest world words = param.readWord world (.group words) := rfl

/-- What a parameter is bound to for its segment, unless it is bound to nothing. -/
inductive Binds (param : Param World Value) (world : World) : List Event → Binding Value → Prop where
  | rest {words : List Event} {binding : Binding Value} (variadic : param.variadic = true)
      (gives : param.Gives world (.group words) binding) : Binds param world words binding
  | world {value : Value} (single : param.variadic = false) (implicit : param.implicit = true)
      (read : param.read world none = .ok value) : Binds param world [] (.value value)
  | word {word : Event} {binding : Binding Value} (positional : param.positional = true)
      (gives : param.Gives world word binding) : Binds param world [word] binding
  | rescued {word : Event} {cause : ScriptError} {value : Value} (positional : param.positional = true)
      (fails : param.Unreadable world word cause) (rescue : param.rescue = some value) :
      Binds param world [word] (if param.mapped then .list [value] else .value value)
  | fallback {fallback : Fallback Value} (positional : param.positional = true)
      (declared : param.fallback = some fallback) : Binds param world [] fallback.binding

theorem Binds.ne_nothing {param : Param World Value} {world : World} {words : List Event} {binding : Binding Value}
    (binds : param.Binds world words binding) : binding ≠ .nothing := by
  have given {word : Event} (gives : param.Gives world word binding) : binding ≠ .nothing := by
    unfold Gives at gives
    split at gives
    · obtain ⟨values, _, rfl⟩ := gives
      exact nofun
    · obtain ⟨value, _, rfl⟩ := gives
      exact nofun
  cases binds with
  | rest _ gives => exact given gives
  | world => exact nofun
  | word _ gives => exact given gives
  | rescued => split <;> exact nofun
  | @fallback fallback => cases fallback <;> exact nofun

theorem bindWord_eq_ok {param : Param World Value} {world : World} {word : Event} {binding : Binding Value} :
    param.bindWord world word = .ok binding ↔ param.Gives world word binding ∨
      ∃ cause value, param.Unreadable world word cause ∧ param.rescue = some value ∧
        (if param.mapped then .list [value] else .value value) = binding := by
  rw [← readWord_eq_ok]
  simp only [← readWord_eq_error]
  cases read : param.readWord world word with
  | ok own => simp [bindWord, read]
  | error cause =>
    cases rescue : param.rescue <;> simp [bindWord, read, rescued?, rescue]

/-- A nullable parameter is bound to nothing when no word is left for it. -/
def Skips (param : Param World Value) (words : List Event) : Prop :=
  param.nullable = true ∧ words = []

theorem bind_skipped {param : Param World Value} {words : List Event} (skips : param.Skips words) (owner : String)
    (world : World) : param.bind owner world words = .ok (.nothing, []) := by
  obtain ⟨nullable, rfl⟩ := skips
  simp [bind, nullable]

private theorem bind_asked {param : Param World Value} {words : List Event} (asked : ¬ param.Skips words) :
    (param.nullable && words.isEmpty) = false := by
  cases nullable : param.nullable with
  | false => rfl
  | true =>
    cases words with
    | nil => exact absurd ⟨nullable, rfl⟩ asked
    | cons word rest => rfl

theorem bind_variadic {param : Param World Value} {words : List Event} (asked : ¬ param.Skips words)
    (variadic : param.variadic = true) (owner : String) (world : World) :
    param.bind owner world words = (fun binding => (binding, [])) <$> param.readWord world (.group words) := by
  simp only [bind, bind_asked asked, variadic, if_true, Bool.false_eq_true, if_false, ← bindRest_eq]
  cases param.bindRest world words <;> rfl

theorem bind_implicit {param : Param World Value} {words : List Event} (asked : ¬ param.Skips words)
    (single : param.variadic = false) (implicit : param.implicit = true) (owner : String) (world : World) :
    param.bind owner world words = (fun value => (.value value, words)) <$> param.read world none := by
  simp only [bind, bind_asked asked, single, implicit, if_true, Bool.false_eq_true, if_false]
  cases param.read world none <;> rfl

theorem bind_word {param : Param World Value} (positional : param.positional = true) (owner : String) (world : World)
    (word : Event) (rest : List Event) :
    param.bind owner world (word :: rest) = (fun binding => (binding, rest)) <$> param.bindWord world word := by
  obtain ⟨single, explicit⟩ := param.positional_iff.mp positional
  simp only [bind, List.isEmpty_cons, Bool.and_false, single, explicit, Bool.false_eq_true, if_false]
  cases param.bindWord world word <;> rfl

theorem bind_missing {param : Param World Value} (positional : param.positional = true)
    (required : param.nullable = false) (owner : String) (world : World) :
    param.bind owner world [] = match param.fallback with
      | some fallback => .ok (fallback.binding, [])
      | none => .error (.missingArgument param.name owner) := by
  obtain ⟨single, explicit⟩ := param.positional_iff.mp positional
  cases fallback : param.fallback <;> simp [bind, required, single, explicit, fallback]

/-- A parameter that binds is bound to nothing or to what its segment gives, and leaves the other words. -/
theorem binds_of_bind {param : Param World Value} {owner : String} {world : World} {words rest : List Event}
    {binding : Binding Value} (bound : param.bind owner world words = .ok (binding, rest)) :
    rest = param.after words ∧ (binding = .nothing ↔ param.Skips words) ∧
      (¬ param.Skips words → param.Binds world (param.share words) binding) := by
  by_cases skips : param.Skips words
  · rw [bind_skipped skips] at bound
    cases bound
    refine ⟨?_, iff_of_true rfl skips, fun asked => absurd skips asked⟩
    rw [skips.2, Slot.after_nil]
  -- Nothing is bound by the kinds themselves, so each has to give its rest and what its segment binds.
  suffices asked : rest = param.after words ∧ param.Binds world (param.share words) binding from
    ⟨asked.1, iff_of_false asked.2.ne_nothing skips, fun _ => asked.2⟩
  rcases param.kind_cases with variadic | ⟨single, implicit⟩ | positional
  · rw [bind_variadic skips variadic] at bound
    obtain ⟨own, read, same⟩ := map_eq_ok.mp bound
    cases same
    rw [param.after_variadic variadic, param.share_variadic variadic]
    exact ⟨rfl, .rest variadic (readWord_eq_ok.mp read)⟩
  · rw [bind_implicit skips single implicit] at bound
    obtain ⟨own, read, same⟩ := map_eq_ok.mp bound
    cases same
    rw [param.after_implicit single implicit, param.share_implicit single implicit]
    exact ⟨rfl, .world single implicit read⟩
  · rw [param.after_positional positional, param.share_positional positional]
    cases words with
    | nil =>
      have required : param.nullable = false := Bool.eq_false_iff.mpr fun nullable => skips ⟨nullable, rfl⟩
      rw [bind_missing positional required] at bound
      cases declared : param.fallback with
      | none =>
        rw [declared] at bound
        cases bound
      | some fallback =>
        rw [declared] at bound
        cases bound
        exact ⟨rfl, .fallback positional declared⟩
    | cons word others =>
      rw [bind_word positional] at bound
      obtain ⟨own, read, same⟩ := map_eq_ok.mp bound
      cases same
      refine ⟨rfl, ?_⟩
      rcases bindWord_eq_ok.mp read with gives | ⟨cause, value, fails, rescue, rfl⟩
      · exact .word positional gives
      · exact .rescued positional fails rescue

end Param

namespace Pattern

section

variable {owner : String} {world : World} {param : Param World Value} {params : List (Param World Value)}
  {words : List Event}

theorem bindParams_cons_eq_ok {entries : List (String × Binding Value)} {leftover : List Event} :
    bindParams owner world (param :: params) words = .ok (entries, leftover) ↔
      ∃ binding others, param.bind owner world words = .ok (binding, param.after words) ∧
        bindParams owner world params (param.after words) = .ok (others, leftover) ∧
        (param.name, binding) :: others = entries := by
  rw [bindParams, bind_eq_ok]
  constructor
  · rintro ⟨⟨binding, rest⟩, first, bound⟩
    obtain ⟨⟨others, final⟩, next, same⟩ := bind_eq_ok.mp bound
    cases same
    obtain rfl := (Param.binds_of_bind first).1
    exact ⟨binding, others, first, next, rfl⟩
  · rintro ⟨binding, others, first, next, rfl⟩
    exact ⟨_, first, bind_eq_ok.mpr ⟨_, next, rfl⟩⟩

end

/-- The entries of parameters that are bound, and the segments of the words that they took. The words that are
left at a parameter's turn are those of its own and all later segments, and those left in the end. -/
theorem shares_of_bindParams {owner : String} {world : World} {params : List (Param World Value)}
    {words leftover : List Event} {entries : List (String × Binding Value)}
    (bound : bindParams owner world params words = .ok (entries, leftover)) :
    ∃ segments : List (List Event), segments.length = params.length ∧ segments.flatten ++ leftover = words ∧
      entries.map (·.1) = params.map (·.name) ∧
      ∀ index param, params[index]? = some param → ∃ binding, entries[index]? = some (param.name, binding) ∧
        let left := (segments.drop index).flatten ++ leftover
        segments[index]? = some (param.share left) ∧ (binding = .nothing ↔ param.Skips left) ∧
          (¬ param.Skips left → param.Binds world (param.share left) binding) := by
  induction params generalizing words entries with
  | nil =>
    cases bound
    exact ⟨[], rfl, rfl, rfl, nofun⟩
  | cons param params ih =>
    obtain ⟨binding, others, first, next, rfl⟩ := bindParams_cons_eq_ok.mp bound
    obtain ⟨_, nothing, binds⟩ := Param.binds_of_bind first
    obtain ⟨segments, length, split, names, each⟩ := ih next
    have whole : (param.share words :: segments).flatten ++ leftover = words := by
      rw [List.flatten_cons, List.append_assoc, split, param.share_append_after]
    refine ⟨param.share words :: segments, ?_, whole, ?_, ?_⟩
    · rw [List.length_cons, List.length_cons, length]
    · rw [List.map_cons, List.map_cons, names]
    · intro index other declared
      cases index with
      | zero =>
        cases declared
        refine ⟨binding, rfl, ?_⟩
        rw [List.drop_zero, whole]
        exact ⟨rfl, nothing, binds⟩
      | succ index => exact each index other declared

/-- Binding loses, doubles and moves no word: the words of the event are, in order, the segments that the parameters
take, and each parameter is bound, under its name and in its place, to what its segment gives. -/
theorem bind_shares {pattern : Pattern World Value} {world : World} {event : Event} {record : Record Value}
    (bound : pattern.bind world event = .ok record) :
    record.names = pattern.params.map (·.name) ∧
      ∃ segments : List (List Event), segments.length = pattern.params.length ∧
        segments.flatten = (pattern.split event).2 ∧
        ∀ index param, pattern.params[index]? = some param → ∃ binding,
          record.entries[index]? = some (param.name, binding) ∧
            let left := (segments.drop index).flatten
            segments[index]? = some (param.share left) ∧ (binding = .nothing ↔ param.Skips left) ∧
              (¬ param.Skips left → param.Binds world (param.share left) binding) := by
  obtain ⟨⟨entries, leftover⟩, shared, finish⟩ := bind_eq_ok.mp bound
  dsimp only at finish
  split at finish
  · next none =>
    cases finish
    obtain rfl : leftover = [] := List.isEmpty_iff.mp none
    obtain ⟨segments, length, split, names, each⟩ := shares_of_bindParams shared
    simp only [List.append_nil] at split each
    exact ⟨names, segments, length, split, each⟩
  · cases finish

/-- A single word, a group whose members are read one by one, and nothing for the last parameter. -/
theorem bind_shares_payment :
    let token : Reader Unit String := fun _ => Reader.token
    let pattern : Pattern Unit String :=
      { name := "pay", doc := "", slots_agree := rfl,
        params := [{ name := "to", read := token }, { name := "amounts", mapped := true, read := token },
          { name := "note", nullable := true, read := token }] }
    let event : Event := .group [.word "pay", .word "bob", .group [.word "1", .word "2"]]
    let record : Record String := ⟨[("to", .value "bob"), ("amounts", .list ["1", "2"]), ("note", .nothing)]⟩
    pattern.bind () event = .ok record ∧
      ∃ segments : List (List Event), segments.length = 3 ∧
        segments.flatten = [.word "bob", .group [.word "1", .word "2"]] := by
  intro token pattern event record
  have bound : pattern.bind () event = .ok record := rfl
  obtain ⟨_, segments, length, split, _⟩ := bind_shares bound
  exact ⟨bound, segments, length, split⟩

end Pattern

end ChainScript
