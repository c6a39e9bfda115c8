import ChainScript.Pattern.Bind
import ChainScript.Proofs.ExceptSteps

/-! Events that are read at the same time. They are read if each of them can be, and their values stand in order. If
some cannot be read, the failure that counts is the one that is seen first; which one that is hangs on the rounds, that
there is one does not. -/

namespace ChainScript

variable {World Value : Type} {read : Event → Except ScriptError Value} {round : Event → Nat}

/-- An event cannot be read. -/
def Fails (read : Event → Except ScriptError Value) (event : Event) : Prop :=
  ∃ cause, read event = .error cause

theorem not_fails_iff {event : Event} : ¬ Fails read event ↔ ∃ value, read event = .ok value := by
  unfold Fails
  cases outcome : read event with
  | ok value => exact iff_of_true nofun ⟨value, rfl⟩
  | error cause => exact iff_of_false (fun sound => sound ⟨cause, rfl⟩) nofun

/-- Of all the events that cannot be read, one is seen to fail first: before the others, or in the same round as these
and in front of them. -/
structure SeenFirst (read : Event → Except ScriptError Value) (round : Event → Nat) (before : List Event) (event : Event)
    (after : List Event) : Prop where
  earlier : ∀ other ∈ before, Fails read other → round event < round other
  later : ∀ other ∈ after, Fails read other → round event ≤ round other

theorem SeenFirst.le {before after : List Event} {event : Event} (first : SeenFirst read round before event after)
    {other : Event} (member : other ∈ before ++ event :: after) (fails : Fails read other) :
    round event ≤ round other := by
  rcases List.mem_append.mp member with front | rest
  · exact Nat.le_of_lt (first.earlier other front fails)
  · rcases List.mem_cons.mp rest with rfl | behind
    · exact Nat.le_refl _
    · exact first.later other behind fails

theorem SeenFirst.cons {before after : List Event} {event front : Event} (first : SeenFirst read round before event after)
    (slower : Fails read front → round event < round front) : SeenFirst read round (front :: before) event after :=
  ⟨List.forall_mem_cons.mpr ⟨slower, first.earlier⟩, first.later⟩

theorem readTogether_cons_eq_ok {event : Event} {rest : List Event} {values : List Value} :
    readTogether read round (event :: rest) = .ok values ↔
      ∃ value others, read event = .ok value ∧ readTogether read round rest = .ok others ∧ value :: others = values := by
  rw [readTogether]
  cases read event <;> cases readTogether read round rest <;> simp

/-- The failure is one of the others, if the first event is read or is seen to fail later than it; or it is that of the
first event, if none of the others is seen to fail before. -/
theorem readTogether_cons_eq_error {event : Event} {rest : List Event} {fault : Nat × ScriptError} :
    readTogether read round (event :: rest) = .error fault ↔
      (readTogether read round rest = .error fault ∧ (Fails read event → fault.1 < round event)) ∨
        (read event = .error fault.2 ∧ round event = fault.1 ∧
          ∀ later, readTogether read round rest = .error later → round event ≤ later.1) := by
  rw [readTogether]
  cases own : read event with
  | ok value =>
    have sound : ¬ Fails read event := not_fails_iff.mpr ⟨value, own⟩
    cases readTogether read round rest <;> simp [sound]
  | error failure =>
    have fails : Fails read event := ⟨failure, own⟩
    cases readTogether read round rest with
    | ok values => simp [Prod.ext_iff, and_comm]
    | error later =>
      dsimp only
      split
      next sooner =>
        constructor
        · intro same
          exact .inl ⟨same, fun _ => Except.error.inj same ▸ sooner⟩
        · rintro (⟨same, -⟩ | ⟨-, -, kept⟩)
          · exact same
          · exact absurd sooner (Nat.not_lt.mpr (kept later rfl))
      next kept =>
        constructor
        · intro same
          cases same
          refine .inr ⟨rfl, rfl, ?_⟩
          rintro _ ⟨⟩
          exact Nat.le_of_not_lt kept
        · rintro (⟨same, slower⟩ | ⟨same, looked, -⟩)
          · exact absurd (Except.error.inj same ▸ slower fails) kept
          · rw [looked, Except.error.inj same]

theorem readTogether_eq_ok {events : List Event} {values : List Value} :
    readTogether read round events = .ok values ↔ events.map read = values.map .ok := by
  induction events generalizing values with
  | nil => cases values <;> simp [readTogether]
  | cons event rest ih =>
    rw [readTogether_cons_eq_ok]
    constructor
    · rintro ⟨value, others, own, found, rfl⟩
      rw [List.map_cons, List.map_cons, own, ih.mp found]
    · intro same
      cases values with
      | nil => cases same
      | cons value values =>
        obtain ⟨own, others⟩ := List.cons.inj same
        exact ⟨value, values, own, ih.mpr others, rfl⟩

theorem reads_of_readTogether {events : List Event} {values : List Value}
    (found : readTogether read round events = .ok values) {event : Event} (member : event ∈ events) :
    ¬ Fails read event := by
  rintro ⟨cause, fails⟩
  have listed := List.mem_map_of_mem (f := read) member
  rw [readTogether_eq_ok.mp found, fails] at listed
  obtain ⟨value, -, impossible⟩ := List.mem_map.mp listed
  cases impossible

theorem seenFirst_of_readTogether {events : List Event} {fault : Nat × ScriptError}
    (failed : readTogether read round events = .error fault) :
    ∃ before event after, events = before ++ event :: after ∧ read event = .error fault.2 ∧ round event = fault.1 ∧
      SeenFirst read round before event after := by
  induction events generalizing fault with
  | nil => cases failed
  | cons front rest ih =>
    rcases readTogether_cons_eq_error.mp failed with ⟨others, slower⟩ | ⟨own, seen, kept⟩
    · obtain ⟨before, event, after, rfl, fails, seen, first⟩ := ih others
      exact ⟨front :: before, event, after, rfl, fails, seen, first.cons fun late => seen ▸ slower late⟩
    · refine ⟨[], front, rest, rfl, own, seen, List.forall_mem_nil _, fun other member fails => ?_⟩
      cases others : readTogether read round rest with
      | ok values => exact absurd fails (reads_of_readTogether others member)
      | error later =>
        obtain ⟨before, event, after, rfl, -, moment, first⟩ := ih others
        calc round front
            ≤ later.1 := kept later others
          _ = round event := moment.symm
          _ ≤ round other := first.le member fails

theorem readTogether_of_seenFirst {before after : List Event} {event : Event} {cause : ScriptError}
    (fails : read event = .error cause) (first : SeenFirst read round before event after) :
    readTogether read round (before ++ event :: after) = .error (round event, cause) := by
  induction before with
  | nil =>
    refine readTogether_cons_eq_error.mpr (.inr ⟨fails, rfl, fun later others => ?_⟩)
    obtain ⟨front, other, back, rfl, slower, seen, -⟩ := seenFirst_of_readTogether others
    exact seen ▸ first.later other (List.mem_append_right front List.mem_cons_self) ⟨later.2, slower⟩
  | cons front before ih =>
    obtain ⟨slower, others⟩ := List.forall_mem_cons.mp first.earlier
    exact readTogether_cons_eq_error.mpr (.inl ⟨ih ⟨others, first.later⟩, slower⟩)

end ChainScript
