import ChainScript.Proofs.BindingShares

/-! When binding fails and with which error. A parameter is judged by the words that are left at its turn, and these
are known from its index alone: one word is gone for every positional parameter before it, and all of them are
gone after the variadic one. -/

namespace ChainScript

variable {World Value : Type}

/-- What follows a variadic slot takes no word. -/
def Slot.Settled (slots : List Slot) : Prop :=
  slots.Pairwise fun earlier later => earlier.variadic = true → later.variadic = false ∧ later.implicit = true

theorem Slot.settled_of_find? {slots : List Slot} (agree : SlotFault.find? slots = none) : Slot.Settled slots := by
  induction slots with
  | nil => exact .nil
  | cons slot slots ih =>
    cases variadic : slot.variadic with
    | false =>
      have same : SlotFault.find? (slot :: slots) = SlotFault.find? slots := by simp [SlotFault.find?, variadic]
      refine List.pairwise_cons.mpr ⟨?_, ih (same ▸ agree)⟩
      intro later _ impossible
      rw [variadic] at impossible
      cases impossible
    | true =>
      have quiet : ∀ later ∈ slots, later.variadic = false ∧ later.implicit = true := by
        simp only [SlotFault.find?, List.countP_cons, variadic, if_true] at agree
        split at agree
        · cases agree
        next single =>
          have none_variadic : slots.countP (·.variadic) = 0 := by omega
          simp [variadic] at agree
          intro later member
          exact ⟨by simpa using List.countP_eq_zero.mp none_variadic later member, agree later member⟩
      refine List.pairwise_cons.mpr ⟨fun later member _ => quiet later member, ?_⟩
      exact List.pairwise_of_forall_mem_list fun _ _ later member _ => quiet later member

theorem Slot.find?_of_settled {slots : List Slot} (settled : Slot.Settled slots) : SlotFault.find? slots = none := by
  induction slots with
  | nil => rfl
  | cons slot slots ih =>
    obtain ⟨followers, others⟩ := List.pairwise_cons.mp settled
    cases variadic : slot.variadic with
    | false =>
      have same : SlotFault.find? (slot :: slots) = SlotFault.find? slots := by simp [SlotFault.find?, variadic]
      exact same.trans (ih others)
    | true =>
      have none_variadic : slots.countP (·.variadic) = 0 :=
        List.countP_eq_zero.mpr fun later member => by simp [(followers later member variadic).1]
      have implicit : ∀ later ∈ slots, later.implicit = true := fun later member => (followers later member variadic).2
      simpa [SlotFault.find?, variadic, none_variadic] using implicit

namespace Pattern

/-- The number of words that the parameters before an index take, unless one of them takes all. -/
def taken (params : List (Param World Value)) (index : Nat) : Nat :=
  (params.take index).countP (·.positional)

/-- The words that are left when it is the turn of the parameter at an index. -/
def left (params : List (Param World Value)) (words : List Event) (index : Nat) : List Event :=
  if (params.take index).any (·.variadic) then [] else words.drop (taken params index)

@[simp] theorem left_zero (params : List (Param World Value)) (words : List Event) : left params words 0 = words := by
  simp [left, taken]

theorem left_succ (param : Param World Value) (params : List (Param World Value)) (words : List Event) (index : Nat) :
    left (param :: params) words (index + 1) = left params (param.after words) index := by
  rcases param.kind_cases with variadic | ⟨single, implicit⟩ | positional
  · rw [param.after_variadic variadic]
    simp [left, variadic]
  · rw [param.after_implicit single implicit]
    simp [left, taken, single, Slot.positional, implicit]
  · rw [param.after_positional positional]
    simp [left, taken, positional, (param.positional_iff.mp positional).1, Nat.add_comm]

section

variable {owner : String} {world : World}

end

variable {params : List (Param World Value)} {index : Nat} {param : Param World Value}

section

variable {pattern : Pattern World Value} {world : World} {words : List Event} {index : Nat} {cause : ScriptError}

end

/-- A record holds the entries of an event of which no word is left over. -/
theorem bind_eq_ok_iff {pattern : Pattern World Value} {world : World} {event : Event} {record : Record Value} :
    pattern.bind world event = .ok record ↔
      bindParams pattern.name world pattern.params (pattern.split event).2 = .ok (record.entries, []) := by
  rw [bind, bind_eq_ok]
  constructor
  · rintro ⟨⟨entries, leftover⟩, bound, finish⟩
    cases leftover with
    | nil =>
      cases finish
      exact bound
    | cons word rest => cases finish
  · intro bound
    exact ⟨_, bound, rfl⟩

end Pattern

end ChainScript
