import Mathlib.Data.List.InsertIdx
import ChainScript.Proofs.BindingFaults

/-! Patterns with more parameters. A parameter that takes no word leaves the others their words, so it adds its own entry
and nothing else; parameters behind all others that can do without a word are bound without one. -/

namespace ChainScript

variable {World Value : Type}

theorem Slot.Settled.insertIdx {slots : List Slot} (settled : Slot.Settled slots) {new : Slot}
    (single : new.variadic = false) (implicit : new.implicit = true) (place : Nat) :
    Slot.Settled (slots.insertIdx place new) := by
  induction slots generalizing place with
  | nil =>
    cases place with
    | zero => exact List.pairwise_singleton _ _
    | succ place => exact .nil
  | cons slot slots ih =>
    cases place with
    | zero =>
      refine List.pairwise_cons.mpr ⟨fun later _ variadic => ?_, settled⟩
      rw [single] at variadic
      cases variadic
    | succ place =>
      obtain ⟨followers, others⟩ := List.pairwise_cons.mp settled
      rw [List.insertIdx_succ_cons]
      refine List.pairwise_cons.mpr ⟨fun later member variadic => ?_, ih others place⟩
      rcases List.eq_or_mem_of_mem_insertIdx member with rfl | member
      · exact ⟨single, implicit⟩
      · exact followers later member variadic

theorem Slot.settled_of_single {slots : List Slot} (singles : ∀ slot ∈ slots, slot.variadic = false) :
    Slot.Settled slots := by
  refine List.pairwise_of_forall_mem_list fun earlier member _ _ variadic => ?_
  rw [singles earlier member] at variadic
  cases variadic

namespace Param

/-- An implicit parameter, neither variadic nor nullable, whose value the world gives. -/
structure Supplied (param : Param World Value) (world : World) (value : Value) : Prop where
  implicit : param.implicit = true
  single : param.variadic = false
  required : param.nullable = false
  read : param.read world none = .ok value

theorem Supplied.bind {param : Param World Value} {world : World} {value : Value}
    (supplied : param.Supplied world value) (owner : String) (words : List Event) :
    param.bind owner world words = .ok (.value value, words) := by
  have asked : ¬ param.Skips words := by
    rintro ⟨nullable, -⟩
    rw [supplied.required] at nullable
    cases nullable
  rw [bind_implicit asked supplied.single supplied.implicit, supplied.read]
  rfl

/-- A positional parameter that can do without a word. -/
structure Spare (param : Param World Value) : Prop where
  positional : param.positional = true
  unfilled : param.nullable = true ∨ param.fallback ≠ none

/-- The entry of a parameter for which no word is left: nothing if it is nullable, else its default. -/
def StandsIn (param : Param World Value) (entry : String × Binding Value) : Prop :=
  entry.1 = param.name ∧
    if param.nullable then entry.2 = .nothing
    else ∃ fallback, param.fallback = some fallback ∧ entry.2 = fallback.binding

theorem Spare.bind {param : Param World Value} (spare : param.Spare) (owner : String) (world : World) :
    ∃ binding, param.bind owner world [] = .ok (binding, []) ∧ param.StandsIn (param.name, binding) := by
  cases nullable : param.nullable with
  | true =>
    refine ⟨.nothing, bind_skipped ⟨nullable, rfl⟩ owner world, rfl, ?_⟩
    rw [if_pos nullable]
  | false =>
    have absent : ¬ param.nullable = true := Bool.eq_false_iff.mp nullable
    obtain ⟨fallback, declared⟩ := Option.ne_none_iff_exists'.mp (spare.unfilled.resolve_left absent)
    refine ⟨fallback.binding, ?_, rfl, ?_⟩
    · rw [bind_missing spare.positional nullable, declared]
    · rw [if_neg absent]
      exact ⟨fallback, declared, rfl⟩

end Param

namespace Pattern

/-- The pattern with these parameters in place of its own. -/
def withParams (pattern : Pattern World Value) (params : List (Param World Value))
    (agree : SlotFault.find? (params.map (·.toSlot)) = none) : Pattern World Value :=
  { pattern with params := params, slots_agree := agree }

section

variable {owner : String} {world : World}

private theorem bindParams_cons_of_bind {param : Param World Value} {params : List (Param World Value)}
    {words rest : List Event} {binding : Binding Value} (first : param.bind owner world words = .ok (binding, rest)) :
    bindParams owner world (param :: params) words =
      (fun bound => ((param.name, binding) :: bound.1, bound.2)) <$> bindParams owner world params rest := by
  rw [bindParams, first, ok_bind]
  dsimp only
  cases bindParams owner world params rest with
  | ok bound => rfl
  | error cause => rfl

theorem bindParams_insertIdx {params : List (Param World Value)} {new : Param World Value} {value : Value}
    (supplied : new.Supplied world value) {place : Nat} (inside : place ≤ params.length) (words : List Event) :
    bindParams owner world (params.insertIdx place new) words =
      (fun bound => (bound.1.insertIdx place (new.name, .value value), bound.2)) <$>
        bindParams owner world params words := by
  induction place generalizing params words with
  | zero =>
    rw [List.insertIdx_zero]
    exact bindParams_cons_of_bind (supplied.bind owner words)
  | succ place ih =>
    cases params with
    | nil => cases inside
    | cons param params =>
      rw [List.insertIdx_succ_cons]
      cases first : param.bind owner world words with
      | error cause => rw [bindParams, bindParams, first, error_bind, error_bind, map_error]
      | ok bound =>
        rw [bindParams_cons_of_bind first, bindParams_cons_of_bind first, ih (Nat.le_of_succ_le_succ inside)]
        cases bindParams owner world params bound.2 with
        | ok others => rfl
        | error cause => rfl

theorem bindParams_append {params others : List (Param World Value)} {words rest : List Event}
    {entries : List (String × Binding Value)} (bound : bindParams owner world params words = .ok (entries, rest)) :
    bindParams owner world (params ++ others) words =
      (fun more => (entries ++ more.1, more.2)) <$> bindParams owner world others rest := by
  induction params generalizing words entries with
  | nil =>
    cases bound
    exact (id_map _).symm
  | cons param params ih =>
    obtain ⟨binding, following, first, next, rfl⟩ := bindParams_cons_eq_ok.mp bound
    rw [List.cons_append, bindParams_cons_of_bind first, ih next]
    cases bindParams owner world others rest with
    | ok more => rfl
    | error cause => rfl

theorem bindParams_spare {params : List (Param World Value)} (spare : ∀ param ∈ params, param.Spare) :
    ∃ entries, bindParams owner world params [] = .ok (entries, []) ∧ List.Forall₂ Param.StandsIn params entries := by
  induction params with
  | nil => exact ⟨[], rfl, .nil⟩
  | cons param params ih =>
    obtain ⟨own, others⟩ := List.forall_mem_cons.mp spare
    obtain ⟨binding, first, stands⟩ := own.bind owner world
    obtain ⟨entries, next, each⟩ := ih others
    refine ⟨(param.name, binding) :: entries, ?_, .cons stands each⟩
    rw [bindParams_cons_of_bind first, next]
    rfl

end

/-- More parameters change nothing for those a pattern has. An implicit parameter that is neither variadic nor nullable
can be put anywhere; where the world gives its value, every event is bound with its entry in that place and all others
as before, or fails as before. Behind parameters none of which is variadic, there can be any number of positional ones
that are nullable or have a default; an event that was bound is bound with their entries behind the others. -/
theorem extension_conserves (pattern : Pattern World Value) (world : World) (event : Event) :
    (∀ (new : Param World Value) (value : Value) (place : Nat), new.Supplied world value →
      place ≤ pattern.params.length →
        ∃ agree, (pattern.withParams (pattern.params.insertIdx place new) agree).bind world event =
          (fun record => ⟨record.entries.insertIdx place (new.name, .value value)⟩) <$> pattern.bind world event) ∧
    ∀ (extra : List (Param World Value)) (record : Record Value), (∀ param ∈ pattern.params, param.variadic = false) →
      (∀ param ∈ extra, param.Spare) → pattern.bind world event = .ok record →
        ∃ agree entries, (pattern.withParams (pattern.params ++ extra) agree).bind world event =
          .ok ⟨record.entries ++ entries⟩ ∧ List.Forall₂ Param.StandsIn extra entries := by
  constructor
  · intro new value place supplied inside
    have settled := Slot.settled_of_find? pattern.slots_agree
    have kept : Slot.Settled ((pattern.params.insertIdx place new).map (·.toSlot)) := by
      rw [List.map_insertIdx]
      exact settled.insertIdx supplied.single supplied.implicit place
    have inserted : bindParams pattern.name world (pattern.params.insertIdx place new) (pattern.split event).2 = _ :=
      bindParams_insertIdx supplied inside _
    refine ⟨Slot.find?_of_settled kept, ?_⟩
    -- The names, and so the words, are those of the pattern.
    change (bindParams pattern.name world (pattern.params.insertIdx place new) (pattern.split event).2 >>= _) = _
    rw [inserted, bind]
    cases bindParams pattern.name world pattern.params (pattern.split event).2 with
    | error cause => rfl
    | ok bound =>
      obtain ⟨entries, leftover⟩ := bound
      cases leftover with
      | nil => rfl
      | cons word rest => rfl
  · intro extra record singles spare bound
    have each : ∀ param ∈ pattern.params ++ extra, param.variadic = false :=
      List.forall_mem_append.mpr ⟨singles, fun param member => (param.positional_iff.mp (spare param member).positional).1⟩
    have agree := Slot.find?_of_settled (Slot.settled_of_single (List.forall_mem_map.mpr each))
    obtain ⟨entries, filled, stand⟩ := bindParams_spare spare
    refine ⟨agree, entries, bind_eq_ok_iff.mpr ?_, stand⟩
    have followed : bindParams pattern.name world (pattern.params ++ extra) (pattern.split event).2 = _ :=
      bindParams_append (bind_eq_ok_iff.mp bound)
    rw [filled] at followed
    exact followed

/-- An implicit parameter between two others gets its own entry, and of two parameters behind them the nullable one is
bound to nothing, the other to its default. -/
theorem extension_conserves_payment :
    let token : Reader Unit String := fun _ => Reader.token
    let caller : Param Unit String := { name := "from", implicit := true, mapped := true, read := fun _ _ => .ok "bob" }
    let note : Param Unit String := { name := "note", nullable := true, fallback := some (.value "none"), read := token }
    let tags : Param Unit String := { name := "tags", mapped := true, fallback := some (.list []), read := token }
    let pattern : Pattern Unit String :=
      { name := "pay", doc := "", slots_agree := rfl,
        params := [{ name := "to", read := token }, { name := "amount", nullable := true, read := token }] }
    let bound : Record String := ⟨[("to", .value "ann"), ("amount", .value "1")]⟩
    pattern.bind () (.group [.word "pay", .word "ann", .word "1"]) = .ok bound ∧
      (∃ agree, (pattern.withParams (pattern.params.insertIdx 1 caller) agree).bind ()
        (.group [.word "pay", .word "ann", .word "1"]) =
          .ok ⟨[("to", .value "ann"), ("from", .value "bob"), ("amount", .value "1")]⟩) ∧
      ∃ agree entries, (pattern.withParams (pattern.params ++ [note, tags]) agree).bind ()
        (.group [.word "pay", .word "ann", .word "1"]) = .ok ⟨bound.entries ++ entries⟩ ∧
          List.Forall₂ Param.StandsIn [note, tags] entries := by
  intro token caller note tags pattern bound
  have made : pattern.bind () (.group [.word "pay", .word "ann", .word "1"]) = .ok bound := rfl
  obtain ⟨inserted, appended⟩ := extension_conserves pattern () (.group [.word "pay", .word "ann", .word "1"])
  refine ⟨made, ?_, ?_⟩
  · obtain ⟨agree, same⟩ := inserted caller "bob" 1 ⟨rfl, rfl, rfl, rfl⟩ (by decide)
    rw [made] at same
    exact ⟨agree, same⟩
  · have singles : ∀ param ∈ pattern.params, param.variadic = false := by simp [pattern]
    have spare : ∀ param ∈ [note, tags], param.Spare :=
      List.forall_mem_cons.mpr ⟨⟨rfl, .inl rfl⟩, List.forall_mem_singleton.mpr ⟨rfl, .inr (Option.some_ne_none _)⟩⟩
    exact appended [note, tags] bound singles spare made

end Pattern

end ChainScript
