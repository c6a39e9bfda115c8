import ChainScript.Proofs.DispatchOrder

/-! Spellings of one event. A word may stand alone or in a group of one, and a group may stand in one more group. All
that is read of an event are its members below this layer, so both spellings are matched, bound and dispatched alike. A
second layer counts: what stands in it is a member of its own, and it is no name. -/

namespace ChainScript

variable {World Value Result Entry : Type}

namespace Event

/-- Two events that differ by a layer that does not count. -/
inductive Respelled : Event → Event → Prop where
  | word (token : String) : Respelled (.word token) (.group [.word token])
  | group {members : List Event} (single : ∀ inner, members ≠ [.group inner]) :
      Respelled (.group members) (.group [.group members])

theorem unwrap_single {members : List Event} (single : ∀ inner, members ≠ [.group inner]) :
    (Event.group members).unwrap = .group members := by
  cases members with
  | nil => rfl
  | cons member rest =>
    cases rest with
    | cons => cases member <;> rfl
    | nil =>
      cases member with
      | word => rfl
      | group inner => exact absurd rfl (single inner)

theorem Respelled.members_eq {first second : Event} (respelled : Respelled first second) :
    first.unwrap.items = second.unwrap.items := by
  cases respelled with
  | word token => rfl
  | group single => rw [unwrap_single single]; rfl

theorem members_nested (members : List Event) :
    (Event.group [.group [.group members]]).unwrap.items = [.group members] := rfl

/-- The only member of an event with a second layer is a group, and a group is no name. -/
theorem wordAt?_nested (position : Nat) (members : List Event) :
    (Event.group [.group [.group members]]).wordAt? position = none := by
  unfold wordAt?
  rw [members_nested]
  cases position with
  | zero => rfl
  | succ position => rfl

end Event

open Event

section
variable {first second : Event} (respelled : Respelled first second)
include respelled

theorem Pattern.split_respelled (pattern : Pattern World Value) : pattern.split first = pattern.split second := by
  unfold split
  rw [respelled.members_eq]

theorem Pattern.recognises_respelled (pattern : Pattern World Value) :
    pattern.recognises first = pattern.recognises second := by
  unfold recognises
  rw [pattern.split_respelled respelled]

theorem Pattern.bind_respelled (pattern : Pattern World Value) (world : World) :
    pattern.bind world first = pattern.bind world second := by
  unfold bind
  rw [pattern.split_respelled respelled]

theorem Command.process_respelled (command : Command World Value) (world : World) (caller : Option Address) :
    command.process world caller first = command.process world caller second := by
  unfold process
  rw [command.pattern.bind_respelled respelled]

theorem Query.ask_respelled (query : Query World Value Result) (world : World) :
    query.ask world first = query.ask world second := by
  unfold ask
  rw [query.pattern.bind_respelled respelled]

theorem chosen?_respelled (pattern : Entry → Pattern World Value) (entries : List Entry) :
    chosen? pattern first entries = chosen? pattern second entries := by
  unfold chosen?
  congr 1
  funext entry
  exact (pattern entry).recognises_respelled respelled

end

/-- Either an entry of the list recognises both events and the results are the same, or none does and each event is
reported the way it is spelled. -/
def SameButForUnknown (pattern : Entry → Pattern World Value) (entries : List Entry) (unknown : Event → Result)
    (dispatch : Event → Result) (first second : Event) : Prop :=
  (∃ entry ∈ entries, (pattern entry).recognises first = true ∧ (pattern entry).recognises second = true) ∧
      dispatch first = dispatch second ∨
    (∀ entry ∈ entries, (pattern entry).recognises first = false ∧ (pattern entry).recognises second = false) ∧
      dispatch first = unknown first ∧ dispatch second = unknown second

theorem sameButForUnknown_of_respelled {first second : Event} (respelled : Respelled first second)
    {pattern : Entry → Pattern World Value} {entries : List Entry} {unknown dispatch : Event → Result}
    (act : Event → Entry → Result)
    (searches : ∀ event, dispatch event = (chosen? pattern event entries).elim (unknown event) (act event))
    (same : ∀ entry, act first entry = act second entry) :
    SameButForUnknown pattern entries unknown dispatch first second := by
  have again (entry : Entry) := (pattern entry).recognises_respelled respelled
  have chosen := chosen?_respelled respelled pattern entries
  cases found : chosen? pattern first entries with
  | none =>
    refine .inr ⟨?_, ?_, ?_⟩
    · intro entry member
      have passed := chosen?_eq_none_iff.mp found entry member
      exact ⟨passed, (again entry).symm.trans passed⟩
    · rw [searches, found, Option.elim_none]
    · rw [searches, ← chosen, found, Option.elim_none]
  | some entry =>
    have member := mem_of_chosen? found
    have recognised := recognises_of_chosen? found
    refine .inl ⟨⟨entry, member, recognised, (again entry).symm.trans recognised⟩, ?_⟩
    rw [searches, searches, ← chosen, found, Option.elim_some, Option.elim_some, same]

/-- A layer around a lone word, or around a group that is not one of a single group, changes nothing: both spellings are
matched, split, bound and carried out alike, and dispatched alike unless nothing recognises them, which is reported of
each as it is spelled. Around such a group of a single group a layer counts: no name is found in it, and a catchall
receives what is left when one layer is taken off. -/
theorem respelled_events_agree :
    (∀ {first second : Event}, Respelled first second →
      (∀ pattern : Pattern World Value, pattern.recognises first = pattern.recognises second ∧
        pattern.split first = pattern.split second ∧
        ∀ world, pattern.bind world first = pattern.bind world second) ∧
      (∀ (command : Command World Value) world caller,
        command.process world caller first = command.process world caller second) ∧
      (∀ (query : Query World Value Result) world, query.ask world first = query.ask world second) ∧
      (∀ kind (commands : List (Command World Value)) world caller,
        SameButForUnknown (·.pattern) commands (.error <| .unknownEvent kind ·)
          (Command.processFirst kind commands world · caller) first second) ∧
      (∀ kind (queries : List (Query World Value Result)) world,
        SameButForUnknown (·.pattern) queries (.error <| .unknownEvent kind ·)
          (Query.askFirst kind queries world) first second)) ∧
    ∀ (pattern : Pattern World Value) (members : List Event),
      let nested : Event := .group [.group [.group members]]
      (pattern.catchall = false → pattern.recognises nested = false) ∧
      (pattern.catchall = true →
        pattern.recognises nested = true ∧ pattern.split nested = (some pattern.name, [.group members])) := by
  constructor
  · intro first second respelled
    refine ⟨?_, ?_, ?_, ?_, ?_⟩
    · intro pattern
      exact ⟨pattern.recognises_respelled respelled, pattern.split_respelled respelled,
        pattern.bind_respelled respelled⟩
    · intro command
      exact command.process_respelled respelled
    · intro query
      exact query.ask_respelled respelled
    · intro kind commands world caller
      apply sameButForUnknown_of_respelled respelled fun event command => command.process world caller event
      · intro event
        exact Command.processFirst_eq_elim kind commands world event caller
      · intro command
        exact command.process_respelled respelled world caller
    · intro kind queries world
      apply sameButForUnknown_of_respelled respelled fun event query => query.ask world event
      · intro event
        exact Query.askFirst_eq_elim kind queries world event
      · intro query
        exact query.ask_respelled respelled world
  · intro pattern members nested
    constructor
    · intro specific
      apply Bool.eq_false_iff.mpr
      intro recognised
      obtain ⟨token, found, -⟩ := (Pattern.recognises_iff specific nested).mp recognised
      rw [wordAt?_nested] at found
      cases found
    · intro catchall
      refine ⟨by rw [Pattern.recognises, catchall, Bool.true_or], ?_⟩
      rw [Pattern.split, if_pos catchall, members_nested]

/-- A command counts the event in both spellings, an event that it does not know comes back as it was spelled, and with
one more layer the name is lost to the command and is inside the only word of the catchall. -/
theorem respelled_events_agree_go :
    let named (catchall : Bool) : Pattern Nat Unit :=
      { name := "go", doc := "", params := [], catchall, slots_agree := rfl }
    let go : Command Nat Unit := ⟨named false, .view fun _ => .ok fun counted => .ok (counted + 1)⟩
    Command.processFirst "Core" [go] 5 (.group [.word "go"]) none = .ok 6 ∧
      Command.processFirst "Core" [go] 5 (.group [.group [.word "go"]]) none = .ok 6 ∧
      Command.processFirst "Core" [go] 5 (.word "stop") none = .error (.unknownEvent "Core" (.word "stop")) ∧
      Command.processFirst "Core" [go] 5 (.group [.word "stop"]) none =
        .error (.unknownEvent "Core" (.group [.word "stop"])) ∧
      (named false).recognises (.group [.group [.group [.word "go"]]]) = false ∧
      (named true).split (.group [.group [.group [.word "go"]]]) = (some "go", [.group [.word "go"]]) := by
  intro named go
  obtain ⟨respelled, nested⟩ := @respelled_events_agree Nat Unit Unit
  have known : Respelled (.group [.word "go"]) (.group [.group [.word "go"]]) := .group fun inner => by simp
  have found : chosen? (·.pattern) (.group [.word "go"]) [go] = some go := List.find?_cons_of_pos (by decide)
  have plain : Command.processFirst "Core" [go] 5 (.group [.word "go"]) none = .ok 6 := by
    rw [Command.processFirst_eq_elim, found]
    rfl
  obtain ⟨-, -, -, dispatched, -⟩ := respelled known
  obtain ⟨-, -, -, missed, -⟩ := respelled (.word "stop")
  have wrapped : Command.processFirst "Core" [go] 5 (.group [.group [.word "go"]]) none = .ok 6 := by
    rcases dispatched "Core" [go] 5 none with ⟨-, same⟩ | ⟨passed, -⟩
    · exact same.symm.trans plain
    · exact absurd (passed go List.mem_cons_self).1 (by decide)
  refine ⟨plain, wrapped, ?_⟩
  rcases missed "Core" [go] 5 none with ⟨⟨command, member, recognised, -⟩, -⟩ | ⟨-, alone, grouped⟩
  · rw [List.mem_singleton.mp member] at recognised
    exact absurd recognised (by decide)
  · exact ⟨alone, grouped, (nested (named false) _).1 rfl, ((nested (named true) _).2 rfl).2⟩

end ChainScript
