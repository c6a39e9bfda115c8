import Mathlib.Data.List.Induction
import Mathlib.Data.List.Nodup
import ChainScript.Pattern.Record

/-! A record as a queue for each name. Entries are inserted and taken in any order; those left are the ones inserted, in
order, but for as many of each name, counted from its first, as accesses to it were answered from the record. -/

namespace ChainScript.Record

variable {Value : Type}

/-- The ways to take an entry out. -/
inductive Access where
  | take
  | value
  | list
  | optional

/-- What an access gives. -/
inductive Taken (Value : Type) where
  | binding (binding : Binding Value)
  | value (value : Value)
  | list (values : List Value)
  | optional (value : Option Value)

namespace Access

def reading (name : String) : Access → Reading Value (Taken Value)
  | .take => .binding <$> Record.take name
  | .value => .value <$> Record.value name
  | .list => .list <$> Record.list name
  | .optional => .optional <$> Record.optional name

/-- What the access makes of the entry that it takes. -/
def outcome (name : String) : Access → Binding Value → Except ScriptError (Taken Value)
  | .take, binding => .ok (.binding binding)
  | .value, .value found => .ok (.value found)
  | .value, _ => .error (.unexpectedBinding name .value)
  | .list, .list found => .ok (.list found)
  | .list, _ => .error (.unexpectedBinding name .list)
  | .optional, .value found => .ok (.optional (some found))
  | .optional, .nothing => .ok (.optional none)
  | .optional, .list _ => .error (.unexpectedBinding name .valueOrNothing)

theorem run_reading (access : Access) (name : String) (record : Record Value) :
    (access.reading name).run record = match record.get? name with
      | some binding => (access.outcome name binding, ⟨record.entries.eraseP (·.1 = name)⟩)
      | none => (.error (.unbound name), record) := by
  cases found : record.get? name with
  | none =>
    have taken := run_take_of_none found
    cases access with
    | take =>
      rw [reading, run_map, taken]
      rfl
    | value =>
      rw [reading, run_map, Record.value, run_bind_error taken]
      rfl
    | list =>
      rw [reading, run_map, Record.list, run_bind_error taken]
      rfl
    | optional =>
      rw [reading, run_map, Record.optional, run_bind_error taken]
      rfl
  | some binding =>
    have taken := run_take found
    cases access with
    | take =>
      rw [reading, run_map, taken]
      rfl
    | value =>
      rw [reading, run_map, Record.value, run_bind taken]
      cases binding <;> rfl
    | list =>
      rw [reading, run_map, Record.list, run_bind taken]
      cases binding <;> rfl
    | optional =>
      rw [reading, run_map, Record.optional, run_bind taken]
      cases binding <;> rfl

/-- An entry that does not fit the access is a fault of its own. -/
theorem outcome_ne_unbound (access : Access) (name other : String) (binding : Binding Value) :
    access.outcome name binding ≠ .error (.unbound other) := by
  cases access <;> cases binding <;> simp [outcome]

end Access

/-- What is done with a record. -/
inductive Step (Value : Type) where
  | insert (name : String) (binding : Binding Value)
  | get (name : String)
  | access (access : Access) (name : String)

inductive Answer (Value : Type) where
  | inserted
  | found (binding : Option (Binding Value))
  | given (outcome : Except ScriptError (Taken Value))

def perform (record : Record Value) : Step Value → Answer Value × Record Value
  | .insert name binding => (.inserted, record.insert name binding)
  | .get name => (.found (record.get? name), record)
  | .access access name => ((access.reading name).run record).map .given id

/-- Steps with their answers, in order. -/
abbrev Log (Value : Type) := List (Step Value × Answer Value)

def performAll (record : Record Value) : List (Step Value) → Log Value × Record Value
  | [] => ([], record)
  | step :: steps =>
    let (answer, next) := record.perform step
    let (log, last) := next.performAll steps
    ((step, answer) :: log, last)

theorem performAll_concat (record : Record Value) (steps : List (Step Value)) (step : Step Value) :
    record.performAll (steps ++ [step]) =
      let (log, next) := record.performAll steps
      let (answer, last) := next.perform step
      (log ++ [(step, answer)], last) := by
  induction steps generalizing record with
  | nil => rfl
  | cons first steps ih =>
    rw [List.cons_append, performAll, performAll]
    simp only [ih, List.cons_append]

/-- An entry with its number among all that were inserted. -/
abbrev Numbered (Value : Type) := (String × Binding Value) × Nat

/-- Whether a step has taken an entry of the name out. -/
def takes (name : String) : Step Value × Answer Value → Bool
  | (.access _ _, .given (.error (.unbound _))) => false
  | (.access _ other, .given _) => other = name
  | _ => false

namespace Log

def inserted (log : Log Value) : List (String × Binding Value) :=
  log.filterMap fun
    | (.insert name binding, _) => some (name, binding)
    | _ => none

def numbered (log : Log Value) : List (Numbered Value) :=
  log.inserted.zipIdx

/-- How many entries of the name were taken out. -/
def taken (log : Log Value) (name : String) : Nat :=
  log.countP (takes name)

end Log

/-- The entries of a name. -/
def ofName (name : String) (entries : List (Numbered Value)) : List (Numbered Value) :=
  entries.filter (·.1.1 = name)

/-- The entries without the first of each name, as many as are taken of it. -/
def without (taken : String → Nat) (entries : List (Numbered Value)) : List (Numbered Value) :=
  entries.filter fun entry => entry.2 ∉ ((ofName entry.1.1 entries).take (taken entry.1.1)).map Prod.snd

theorem mem_ofName {name : String} {entries : List (Numbered Value)} {entry : Numbered Value} :
    entry ∈ ofName name entries ↔ entry ∈ entries ∧ entry.1.1 = name := by
  rw [ofName, List.mem_filter, decide_eq_true_eq]

private theorem filter_not_mem_take {items : List (Numbered Value)} (apart : (items.map Prod.snd).Nodup) (count : Nat) :
    items.filter (fun item => item.2 ∉ (items.take count).map Prod.snd) = items.drop count := by
  have parts := List.take_append_drop count items
  rw [← parts, List.map_append, List.nodup_append] at apart
  obtain ⟨-, -, differ⟩ := apart
  have first : (items.take count).filter (fun item => item.2 ∉ (items.take count).map Prod.snd) = [] := by
    rw [List.filter_eq_nil_iff]
    intro item member
    rw [decide_eq_true_eq, not_not]
    exact List.mem_map_of_mem member
  have rest : (items.drop count).filter (fun item => item.2 ∉ (items.take count).map Prod.snd) = items.drop count := by
    rw [List.filter_eq_self]
    intro item member
    rw [decide_eq_true_eq]
    exact fun again => differ _ again _ (List.mem_map_of_mem member) rfl
  calc items.filter (fun item => item.2 ∉ (items.take count).map Prod.snd)
      = (items.take count ++ items.drop count).filter (fun item => item.2 ∉ (items.take count).map Prod.snd) := by
        rw [parts]
    _ = items.drop count := by rw [List.filter_append, first, rest, List.nil_append]

private theorem eraseP_eq_filter {items : List (Numbered Value)} (apart : (items.map Prod.snd).Nodup)
    {test : Numbered Value → Bool} {entry : Numbered Value} (first : items.find? test = some entry) :
    items.eraseP test = items.filter (·.2 ≠ entry.2) := by
  induction items with
  | nil => cases first
  | cons item items ih =>
    obtain ⟨fresh, apart⟩ := List.nodup_cons.mp apart
    by_cases passes : test item = true
    · rw [List.find?_cons_of_pos passes] at first
      cases first
      have kept : items.filter (·.2 ≠ entry.2) = items := by
        rw [List.filter_eq_self]
        intro other member
        rw [decide_eq_true_eq]
        intro same
        exact fresh (same ▸ List.mem_map_of_mem member)
      rw [List.eraseP_cons_of_pos passes, List.filter_cons, kept]
      simp
    · rw [List.find?_cons_of_neg passes] at first
      have differs : item.2 ≠ entry.2 := by
        intro same
        rw [same] at fresh
        exact fresh (List.mem_map_of_mem (List.mem_of_find?_eq_some first))
      rw [List.eraseP_cons_of_neg passes, List.filter_cons, ih apart first]
      simp [differs]

section
variable {entries : List (Numbered Value)} (apart : (entries.map Prod.snd).Nodup) {taken : String → Nat}
include apart

theorem ofName_without (name : String) :
    ofName name (without taken entries) = (ofName name entries).drop (taken name) := by
  have own : ((ofName name entries).map Prod.snd).Nodup := apart.sublist (List.filter_sublist.map _)
  rw [← filter_not_mem_take own, ofName, without, List.filter_comm]
  apply List.filter_congr
  intro entry member
  rw [(mem_ofName.mp member).2]

/-- The first entry of a name that is left. -/
theorem find?_without (name : String) :
    (without taken entries).find? (·.1.1 = name) = (ofName name entries)[taken name]? := by
  have head : (ofName name (without taken entries)).head? = ((ofName name entries).drop (taken name)).head? :=
    congrArg List.head? (ofName_without apart name)
  rwa [List.head?_drop, ofName, List.head?_filter] at head

variable {name : String} {entry : Numbered Value} (first : (ofName name entries)[taken name]? = some entry)
include first

/-- Taking it out takes out this entry alone. -/
theorem eraseP_without :
    (without taken entries).eraseP (·.1.1 = name) = (without taken entries).filter (·.2 ≠ entry.2) := by
  refine eraseP_eq_filter (apart.sublist (List.filter_sublist.map _)) ?_
  rw [← first]
  exact find?_without apart name

theorem filter_without {more : String → Nat} (one : more name = taken name + 1)
    (same : ∀ other, other ≠ name → more other = taken other) :
    (without taken entries).filter (·.2 ≠ entry.2) = without more entries := by
  have own := mem_ofName.mp (List.mem_of_getElem? first)
  rw [without, List.filter_filter, without]
  apply List.filter_congr
  intro item member
  rw [← Bool.decide_and, decide_eq_decide]
  by_cases named : item.1.1 = name
  · rw [named, one, List.take_add_one, first, List.map_append, List.mem_append, not_or, and_comm]
    simp
  · have other : item.2 ≠ entry.2 := by
      intro number
      have equal := List.inj_on_of_nodup_map apart member own.1 number
      exact named (equal ▸ own.2)
    rw [same _ named, and_iff_right other]

end

theorem without_concat {entries : List (Numbered Value)} {taken : String → Nat}
    (within : ∀ name, taken name ≤ (ofName name entries).length) {entry : Numbered Value}
    (fresh : entry.2 ∉ entries.map Prod.snd) : without taken (entries ++ [entry]) = without taken entries ++ [entry] := by
  have early (name : String) : (ofName name (entries ++ [entry])).take (taken name) =
      (ofName name entries).take (taken name) := by
    rw [ofName, List.filter_append]
    exact List.take_append_of_le_length (within name)
  have last : entry.2 ∉ ((ofName entry.1.1 entries).take (taken entry.1.1)).map Prod.snd := by
    intro member
    exact fresh ((((List.take_sublist _ _).trans List.filter_sublist).map _).subset member)
  simp only [without, early, List.filter_append]
  rw [List.filter_cons, if_pos (decide_eq_true last), List.filter_nil]

namespace Log

/-- The entries that no step has taken out, if the steps take those of each name in order. -/
def left (log : Log Value) : List (Numbered Value) :=
  without log.taken log.numbered

/-- The entry that comes after those of the name that were taken out. -/
def next? (log : Log Value) (name : String) : Option (Numbered Value) :=
  (ofName name log.numbered)[log.taken name]?

theorem apart (log : Log Value) : (log.numbered.map Prod.snd).Nodup := by
  rw [numbered, List.zipIdx_map_snd]
  exact List.nodup_range'

theorem find?_left (log : Log Value) (name : String) : log.left.find? (·.1.1 = name) = log.next? name :=
  find?_without log.apart name

theorem numbered_insert (log : Log Value) (name : String) (binding : Binding Value) (answer : Answer Value) :
    numbered (log ++ [(.insert name binding, answer)]) =
      log.numbered ++ [((name, binding), log.inserted.length)] := by
  have added : inserted (log ++ [(.insert name binding, answer)]) = log.inserted ++ [(name, binding)] :=
    List.filterMap_append
  rw [numbered, added, List.zipIdx_append, Nat.zero_add]
  rfl

theorem numbered_of_idle (log : Log Value) {made : Step Value × Answer Value} (idle : inserted [made] = []) :
    numbered (log ++ [made]) = log.numbered := by
  have added : inserted (log ++ [made]) = log.inserted ++ inserted [made] := List.filterMap_append
  rw [numbered, added, idle, List.append_nil]
  rfl

theorem taken_concat (log : Log Value) (made : Step Value × Answer Value) (name : String) :
    taken (log ++ [made]) name = log.taken name + if takes name made then 1 else 0 := by
  rw [taken, List.countP_append, List.countP_singleton]
  rfl

end Log

theorem takes_outcome (access : Access) (name other : String) (binding : Binding Value) :
    takes other (.access access name, .given (access.outcome name binding)) = decide (name = other) := by
  cases access <;> cases binding <;> rfl

/-- The record holds what is left after the log, and nothing was taken that was not there. -/
structure Queued (log : Log Value) (record : Record Value) : Prop where
  entries : record.entries = log.left.map Prod.fst
  within : ∀ name, log.taken name ≤ (ofName name log.numbered).length

namespace Queued

variable {log : Log Value} {record : Record Value}

theorem get?_eq (queued : Queued log record) (name : String) :
    record.get? name = (log.next? name).map (·.1.2) := by
  rw [get?, queued.entries, List.find?_map, Option.map_map, ← log.find?_left]
  rfl

theorem perform_access (queued : Queued log record) (access : Access) (name : String) :
    record.perform (.access access name) = match log.next? name with
      | some entry =>
        (.given (access.outcome name entry.1.2), ⟨(log.left.filter (·.2 ≠ entry.2)).map Prod.fst⟩)
      | none => (.given (.error (.unbound name)), record) := by
  rw [perform, access.run_reading, queued.get?_eq]
  cases next : log.next? name with
  | none => rfl
  | some entry =>
    have rest : log.left.eraseP (·.1.1 = name) = log.left.filter (·.2 ≠ entry.2) := eraseP_without log.apart next
    simp only [Option.map_some, Prod.map, id_eq, queued.entries, List.eraseP_map]
    rw [← rest]
    rfl

theorem insert (queued : Queued log record) (name : String) (binding : Binding Value) :
    Queued (log ++ [(.insert name binding, .inserted)]) (record.insert name binding) := by
  have kept : Log.taken (log ++ [(.insert name binding, .inserted)]) = log.taken := funext (log.taken_concat _)
  have fresh : log.inserted.length ∉ log.numbered.map Prod.snd := by
    rw [Log.numbered, List.zipIdx_map_snd, List.mem_range']
    omega
  constructor
  · rw [Log.left, kept, log.numbered_insert, without_concat queued.within fresh, List.map_append, Record.insert,
      queued.entries]
    rfl
  · intro other
    rw [kept, log.numbered_insert, ofName, List.filter_append, List.length_append]
    exact Nat.le_add_right_of_le (queued.within other)

/-- A step that inserts nothing and takes nothing out. -/
theorem idle (queued : Queued log record) {made : Step Value × Answer Value} (inserts : Log.inserted [made] = [])
    (leaves : ∀ name, takes name made = false) : Queued (log ++ [made]) record := by
  have kept : Log.taken (log ++ [made]) = log.taken := by
    funext name
    rw [log.taken_concat, leaves, if_neg Bool.false_ne_true, Nat.add_zero]
  constructor
  · rw [Log.left, kept, log.numbered_of_idle inserts]
    exact queued.entries
  · intro name
    rw [kept, log.numbered_of_idle inserts]
    exact queued.within name

theorem access (queued : Queued log record) {name : String} {entry : Numbered Value}
    (next : log.next? name = some entry) (access : Access) :
    Queued (log ++ [(.access access name, .given (access.outcome name entry.1.2))])
      ⟨(log.left.filter (·.2 ≠ entry.2)).map Prod.fst⟩ := by
  generalize made : (Step.access access name, Answer.given (access.outcome name entry.1.2)) = step
  have inserts : Log.inserted [step] = [] := by rw [← made]; rfl
  have more (other : String) : Log.taken (log ++ [step]) other = log.taken other + if name = other then 1 else 0 := by
    rw [log.taken_concat, ← made, takes_outcome]
    simp only [decide_eq_true_eq]
  constructor
  · have own : Log.taken (log ++ [step]) name = log.taken name + 1 := by rw [more, if_pos rfl]
    have same (other : String) (differs : other ≠ name) : Log.taken (log ++ [step]) other = log.taken other := by
      rw [more, if_neg differs.symm, Nat.add_zero]
    have rest := filter_without log.apart next own same
    rw [Log.left, Log.left, log.numbered_of_idle inserts, rest]
  · intro other
    rw [log.numbered_of_idle inserts, more]
    split
    next own =>
      subst own
      exact (List.getElem?_eq_some_iff.mp next).1
    next => exact queued.within other

theorem concat (queued : Queued log record) (step : Step Value) :
    Queued (log ++ [(step, (record.perform step).1)]) (record.perform step).2 := by
  cases step with
  | insert name binding => exact queued.insert name binding
  | get name => exact queued.idle rfl fun _ => rfl
  | access access name =>
    rw [queued.perform_access]
    cases next : log.next? name with
    | none => exact queued.idle rfl fun _ => rfl
    | some entry => exact queued.access next access

end Queued

theorem queued_performAll (steps : List (Step Value)) :
    Queued (performAll {} steps).1 (performAll {} steps).2 := by
  induction steps using List.reverseRecOn with
  | nil => exact ⟨rfl, fun _ => Nat.zero_le _⟩
  | append_singleton steps step ih =>
    rw [performAll_concat]
    exact ih.concat step

/-- After any steps from the empty record, its entries are the inserted ones, in order, without those that accesses have
taken: of each name the first ones, as many as accesses to it were answered otherwise than that it is not bound. The next
access to a name takes the entry that comes after them and no other, whether or not the entry is what was asked for; just
if none is left, the answer is that the name is not bound, and nothing changes. Looking a name up changes nothing and
shows what would be taken. -/
theorem record_is_fifo (steps : List (Step Value)) :
    let log := (performAll {} steps).1
    let record := (performAll {} steps).2
    record.entries = log.left.map Prod.fst ∧
    ∀ name,
      (log.next? name = none ↔ ∀ entry ∈ record.entries, entry.1 ≠ name) ∧
      record.perform (.get name) = (.found ((log.next? name).map (·.1.2)), record) ∧
      (∀ binding, record.get? name = some binding ↔
        (record.perform (.access .take name)).1 = .given (.ok (.binding binding))) ∧
      (∀ entry, log.next? name = some entry → entry ∈ log.left ∧
        ∀ access, record.perform (.access access name) =
          (.given (access.outcome name entry.1.2), ⟨(log.left.filter (·.2 ≠ entry.2)).map Prod.fst⟩)) ∧
      ∀ access, ((record.perform (.access access name)).1 = .given (.error (.unbound name)) ↔ log.next? name = none) ∧
        (log.next? name = none → record.perform (.access access name) = (.given (.error (.unbound name)), record)) := by
  intro log record
  have queued : Queued log record := queued_performAll steps
  refine ⟨queued.entries, fun name => ⟨?_, ?_, ?_, ?_, ?_⟩⟩
  · rw [← log.find?_left, List.find?_eq_none, queued.entries, List.forall_mem_map]
    simp only [decide_eq_true_eq, ne_eq]
  · rw [perform, queued.get?_eq]
  · intro binding
    rw [queued.perform_access, queued.get?_eq]
    cases log.next? name with
    | none => simp
    | some entry => simp [Access.outcome]
  · intro entry next
    refine ⟨List.mem_of_find?_eq_some ((log.find?_left name).trans next), fun access => ?_⟩
    rw [queued.perform_access, next]
  · intro access
    rw [queued.perform_access]
    cases log.next? name with
    | none => exact ⟨iff_of_true rfl rfl, fun _ => rfl⟩
    | some entry =>
      have bound := access.outcome_ne_unbound name name entry.1.2
      exact ⟨by simp [bound], fun none => by cases none⟩

/-- A name that is bound twice: reading its second entry as a value fails and takes it out, and leaves the entry of another
name; then the name is not bound. -/
theorem record_is_fifo_repeated :
    let steps : List (Step Nat) := [.insert "to" (.value 1), .insert "to" (.list [2, 3]), .insert "by" .nothing,
      .access .value "to"]
    let record := (performAll {} steps).2
    let rest := (performAll {} (steps ++ [.access .value "to"])).2
    record.get? "to" = some (.list [2, 3]) ∧
      record.perform (.access .value "to") =
        (.given (.error (.unexpectedBinding "to" .value)), ⟨[("by", .nothing)]⟩) ∧
      rest.perform (.access .optional "to") = (.given (.error (.unbound "to")), rest) := by
  intro steps record rest
  obtain ⟨-, -, seen, taken, -⟩ := (record_is_fifo steps).2 "to"
  obtain ⟨-, -, -, -, unbound⟩ := (record_is_fifo (steps ++ [.access .value "to"])).2 "to"
  have next : (performAll {} steps).1.next? "to" = some (("to", .list [2, 3]), 1) := by decide
  have takes := (taken _ next).2
  exact ⟨(seen _).mpr (congrArg Prod.fst (takes .take)), takes .value, (unbound .optional).2 (by decide)⟩

end ChainScript.Record
