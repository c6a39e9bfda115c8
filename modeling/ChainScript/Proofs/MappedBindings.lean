import ChainScript.Proofs.BindingFaults

/-! What mapped parameters are bound to. Every word they read gives a list, and so does what is bound in the place of one;
only what no word is read for can be a single value. -/

namespace ChainScript

variable {World Value : Type}

namespace Pattern

/-- The entry of a parameter stands in its place, and is what the words left at its turn are bound to. -/
theorem bound_at {owner : String} {world : World} {params : List (Param World Value)} {words leftover : List Event}
    {entries : List (String × Binding Value)} (bound : bindParams owner world params words = .ok (entries, leftover))
    {index : Nat} {param : Param World Value} (declared : params[index]? = some param) :
    ∃ binding, entries[index]? = some (param.name, binding) ∧ param.bind owner world (left params words index) =
      .ok (binding, param.after (left params words index)) := by
  induction params generalizing words entries index with
  | nil => cases declared
  | cons first params ih =>
    obtain ⟨binding, others, own, next, rfl⟩ := bindParams_cons_eq_ok.mp bound
    cases index with
    | zero =>
      cases declared
      rw [left_zero]
      exact ⟨binding, rfl, own⟩
    | succ index =>
      rw [left_succ]
      exact ih next declared

end Pattern

namespace Param

/-- No word is read for the parameter: the world gives its value, or a single default stands in for a word. -/
def Whole (param : Param World Value) (words : List Event) : Prop :=
  param.variadic = false ∧ (param.implicit = true ∨ words = [] ∧ ∃ value, param.fallback = some (.value value))

/-- Words are read for the parameter wherever it is bound to something, or lists stand in for them. -/
def Listed (param : Param World Value) : Prop :=
  param.variadic = true ∨ param.implicit = false ∧ ∀ value, param.fallback ≠ some (.value value)

theorem Listed.not_whole {param : Param World Value} (listed : param.Listed) (words : List Event) :
    ¬ param.Whole words := by
  rintro ⟨single, whole⟩
  rcases listed with variadic | ⟨explicit, listed⟩
  · rw [single] at variadic
    cases variadic
  · rcases whole with implicit | ⟨-, value, declared⟩
    · rw [explicit] at implicit
      cases implicit
    · exact listed value declared

/-- What kind of binding a mapped parameter has for the words that are left at its turn. -/
def Collects (param : Param World Value) (words : List Event) : Binding Value → Prop
  | .nothing => param.Skips words
  | .value _ => ¬ param.Skips words ∧ param.Whole words
  | .list _ => ¬ param.Skips words ∧ ¬ param.Whole words

theorem whole_iff_of_positional {param : Param World Value} (positional : param.positional = true)
    {words : List Event} :
    param.Whole words ↔ words = [] ∧ ∃ value, param.fallback = some (.value value) := by
  obtain ⟨single, explicit⟩ := param.positional_iff.mp positional
  simp only [Whole, single, explicit, true_and, Bool.false_eq_true, false_or]

private theorem not_whole_of_word {param : Param World Value} (positional : param.positional = true)
    {words : List Event} {word : Event} (own : param.share words = [word]) : ¬ param.Whole words := by
  rw [whole_iff_of_positional positional]
  rintro ⟨rfl, -⟩
  rw [Slot.share_positional _ positional] at own
  cases own

theorem collects_of_bind {param : Param World Value} (mapped : param.mapped = true) {owner : String} {world : World}
    {words rest : List Event} {binding : Binding Value} (bound : param.bind owner world words = .ok (binding, rest)) :
    param.Collects words binding := by
  by_cases skips : param.Skips words
  · rw [bind_skipped skips] at bound
    cases bound
    exact skips
  obtain ⟨-, -, binds⟩ := binds_of_bind bound
  have given {word : Event} (gives : param.Gives world word binding) : ∃ values, binding = .list values := by
    rw [Gives, if_pos mapped] at gives
    obtain ⟨values, -, rfl⟩ := gives
    exact ⟨values, rfl⟩
  generalize shared : param.share words = segment at binds
  cases binds skips with
  | rest variadic gives =>
    obtain ⟨values, rfl⟩ := given gives
    refine ⟨skips, fun whole => ?_⟩
    rw [whole.1] at variadic
    cases variadic
  | world single implicit read => exact ⟨skips, single, .inl implicit⟩
  | word positional gives =>
    obtain ⟨values, rfl⟩ := given gives
    exact ⟨skips, not_whole_of_word positional shared⟩
  | rescued positional fails rescue =>
    rw [if_pos mapped]
    exact ⟨skips, not_whole_of_word positional shared⟩
  | @fallback fallback positional declared =>
    rw [Slot.share_positional _ positional, List.take_eq_nil_iff] at shared
    have missing : words = [] := shared.resolve_left Nat.one_ne_zero
    cases fallback with
    | value value => exact ⟨skips, (whole_iff_of_positional positional).mpr ⟨missing, value, declared⟩⟩
    | list values =>
      refine ⟨skips, ?_⟩
      rw [whole_iff_of_positional positional]
      rintro ⟨-, value, other⟩
      rw [declared] at other
      cases other

end Param

namespace Record

theorem read_list {record : Record Value} {name : String} {values : List Value}
    (first : record.get? name = some (.list values)) : record.read (list name) = .ok values := by
  rw [read, list, run_bind (run_take first)]
  rfl

end Record

namespace Pattern

/-- A mapped parameter that is bound has an entry of its own. It is nothing exactly if the parameter is nullable and no
word is left at its turn; else it is a single value exactly if the world gives it without a word, or if a single default
stands in for the word that is missing; in all other cases it is a list. So a parameter that is not nullable, and is
variadic or else neither implicit nor has a single default, is read as a list without a fault, from whatever is left of
the record, while its entry is the first of its name. -/
theorem mapped_binds_list {pattern : Pattern World Value} {world : World} {event : Event} {record : Record Value}
    (bound : pattern.bind world event = .ok record) {index : Nat} {param : Param World Value}
    (declared : pattern.params[index]? = some param) (mapped : param.mapped = true) :
    ∃ binding, record.entries[index]? = some (param.name, binding) ∧
      param.Collects (left pattern.params (pattern.split event).2 index) binding ∧
      (param.nullable = false → param.Listed → ∃ values, binding = .list values ∧
        ∀ rest : Record Value, rest.get? param.name = some binding →
          rest.read (Record.list param.name) = .ok values) := by
  obtain ⟨binding, entry, own⟩ := bound_at (bind_eq_ok_iff.mp bound) declared
  have collects := Param.collects_of_bind mapped own
  refine ⟨binding, entry, collects, fun required listed => ?_⟩
  cases binding with
  | nothing =>
    rw [collects.1] at required
    cases required
  | value value => exact absurd collects.2 (listed.not_whole _)
  | list values => exact ⟨values, rfl, fun rest first => Record.read_list first⟩

/-- Behind a word of the same name, a tail is read as a list when that word has been taken out. -/
theorem mapped_binds_list_tail :
    let token : Reader Unit String := fun _ => Reader.token
    let tail : Param Unit String :=
      { name := "to", variadic := true, mapped := true, implicit := true, fallback := some (.value "all"), read := token }
    let pattern : Pattern Unit String :=
      { name := "pay", doc := "", slots_agree := rfl, params := [{ name := "to", read := token }, tail] }
    let event : Event := .group [.word "pay", .word "ann", .word "bob", .word "eve"]
    let record : Record String := ⟨[("to", .value "ann"), ("to", .list ["bob", "eve"])]⟩
    pattern.bind () event = .ok record ∧ tail.mapped = true ∧ tail.nullable = false ∧ tail.Listed ∧
      record.read (do let _ ← Record.value "to"; Record.list "to") = .ok ["bob", "eve"] := by
  intro token tail pattern event record
  have bound : pattern.bind () event = .ok record := rfl
  have declared : pattern.params[1]? = some tail := rfl
  have listed : tail.Listed := .inl rfl
  obtain ⟨binding, entry, -, reads⟩ := mapped_binds_list bound declared rfl
  obtain ⟨values, rfl, read⟩ := reads rfl listed
  cases entry
  exact ⟨bound, rfl, rfl, listed, read ⟨[("to", .list ["bob", "eve"])]⟩ rfl⟩

/-- Without a word to map over, the world's value and a single default are bound as they are, and no list is read. -/
theorem mapped_binds_value :
    let lone : Param Unit String :=
      { name := "items", mapped := true, fallback := some (.value "d"), read := fun _ => Reader.token }
    let given : Param Unit String := { name := "items", mapped := true, implicit := true, read := fun _ _ => .ok "d" }
    let defaulting : Pattern Unit String := { name := "Foo", doc := "", params := [lone], slots_agree := rfl }
    let supplied : Pattern Unit String := { name := "Foo", doc := "", params := [given], slots_agree := rfl }
    let record : Record String := ⟨[("items", .value "d")]⟩
    lone.nullable = false ∧ defaulting.bind () (.group [.word "Foo"]) = .ok record ∧
      given.nullable = false ∧ supplied.bind () (.group [.word "Foo"]) = .ok record ∧
      record.read (Record.list "items") = .error (.unexpectedBinding "items" .list) :=
  ⟨rfl, rfl, rfl, rfl, rfl⟩

end Pattern

end ChainScript
