/-! States that are reached through handles. A clone of a handle reaches the state that the handle reaches, so what is
done through one of them is seen through all of them. -/

namespace ChainScript

structure Shared (State : Type) where
  states : List State
  /-- The place of the state that each handle reaches. -/
  handles : List Nat

namespace Shared

variable {State Answer : Type}

/-- One state with one handle. -/
def single (state : State) : Shared State :=
  ⟨[state], [0]⟩

def clone (shared : Shared State) (handle : Nat) : Shared State :=
  match shared.handles[handle]? with
  | some place => { shared with handles := shared.handles ++ [place] }
  | none => shared

/-- Acts on the state that a handle reaches. -/
def through (handle : Nat) (action : StateM State Answer) : StateM (Shared State) (Option Answer) := fun shared =>
  match shared.handles[handle]? with
  | none => (none, shared)
  | some place =>
    match shared.states[place]? with
    | none => (none, shared)
    | some state =>
      let (answer, next) := action.run state
      (some answer, { shared with states := shared.states.set place next })

/-- There is only this state, and `count` handles reach it. -/
structure Only (state : State) (count : Nat) (shared : Shared State) : Prop where
  states : shared.states = [state]
  handles : shared.handles = List.replicate count 0

theorem only_single (state : State) : (single state).Only state 1 :=
  ⟨rfl, rfl⟩

namespace Only

variable {shared : Shared State} {state next : State} {count handle : Nat} {answer : Answer}

theorem place (only : shared.Only state count) (held : handle < count) : shared.handles[handle]? = some 0 := by
  rw [only.handles, List.getElem?_replicate_of_lt held]

theorem clone (only : shared.Only state count) (held : handle < count) :
    (shared.clone handle).Only state (count + 1) := by
  simp only [Shared.clone, only.place held]
  refine ⟨only.states, ?_⟩
  rw [only.handles, List.replicate_succ']

theorem through (only : shared.Only state count) (held : handle < count) (action : StateM State Answer)
    (acted : action state = (answer, next)) :
    ∃ after, Shared.through handle action shared = (some answer, after) ∧ after.Only next count := by
  have run : action.run state = (answer, next) := acted
  refine ⟨{ shared with states := [next] }, ?_, rfl, only.handles⟩
  simp only [Shared.through, only.place held, only.states, List.getElem?_cons_zero, run, List.set_cons_zero]

end Only

end Shared

end ChainScript
