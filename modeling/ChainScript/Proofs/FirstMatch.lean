/-! Searches through lists of which at most one entry fits. That entry is found wherever it stands, so the order of
the list does not matter. -/

namespace ChainScript

variable {α κ : Type} {fits : α → Bool} {entries : List α}

/-- No two entries of the list fit. -/
def Exclusive (fits : α → Bool) (entries : List α) : Prop :=
  entries.Pairwise fun first second => ¬(fits first = true ∧ fits second = true)

namespace Exclusive

theorem find?_eq_some_iff (exclusive : Exclusive fits entries) {entry : α} :
    entries.find? fits = some entry ↔ entry ∈ entries ∧ fits entry = true := by
  refine ⟨fun found => ⟨List.mem_of_find?_eq_some found, List.find?_some found⟩, ?_⟩
  rintro ⟨member, own⟩
  induction entries with
  | nil => cases member
  | cons head rest ih =>
    obtain ⟨alone, others⟩ := List.pairwise_cons.mp exclusive
    rcases List.mem_cons.mp member with rfl | member
    · exact List.find?_cons_of_pos own
    · have passed : ¬fits head = true := fun fit => alone entry member ⟨fit, own⟩
      rw [List.find?_cons_of_neg passed]
      exact ih others member

theorem perm (exclusive : Exclusive fits entries) {others : List α} (same : entries.Perm others) :
    Exclusive fits others :=
  (same.pairwise_iff fun alone both => alone both.symm).mp exclusive

theorem find?_perm (exclusive : Exclusive fits entries) {others : List α} (same : entries.Perm others) :
    entries.find? fits = others.find? fits := by
  apply Option.ext
  intro entry
  rw [exclusive.find?_eq_some_iff, (exclusive.perm same).find?_eq_some_iff, same.mem_iff]

/-- Entries that have different keys are exclusive where only one key fits. -/
theorem of_keys {key : α → κ} {wanted : κ} (distinct : (entries.map key).Nodup)
    (keyed : ∀ entry, fits entry = true → key entry = wanted) : Exclusive fits entries := by
  refine (List.pairwise_map.mp distinct).imp ?_
  rintro first second differ ⟨one, other⟩
  exact differ ((keyed first one).trans (keyed second other).symm)

end Exclusive

end ChainScript
