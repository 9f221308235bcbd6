import Statechart.Registry

/-! The registry as a list of states. A state is created at the end of the list under the next
number and never moves, so looking up a number, changing the state with a number and listing a
transition under it are all operations on that list. -/
namespace Statechart.Registry

variable {r : Registry} {s t : State} {id : StateId} {change : State → State}

/-- The registry with one more state at its end, which carries the next number. -/
def push (r : Registry) (name : String) (kind : Kind) (owner : Scope) : Registry :=
  { r with states := r.states ++ [State.blank (r.lastId + 1) name kind owner] }

/-- Creation fails only when the next number would not fit, and then there is nothing to undo. -/
theorem create_eq (r : Registry) (name : String) (kind : Kind) (owner : Scope) :
    r.create name kind owner =
      if r.lastId < StateId.max then .ok (r.lastId + 1, r.push name kind owner)
      else .error (.identifierOverflow r.lastId) :=
  rfl

@[simp] theorem push_startingId (r : Registry) (name : String) (kind : Kind) (owner : Scope) :
    (r.push name kind owner).startingId = r.startingId := rfl

@[simp] theorem push_states (r : Registry) (name : String) (kind : Kind) (owner : Scope) :
    (r.push name kind owner).states =
      r.states ++ [State.blank (r.lastId + 1) name kind owner] := rfl

@[simp] theorem push_lastId (r : Registry) (name : String) (kind : Kind) (owner : Scope) :
    (r.push name kind owner).lastId = r.lastId + 1 := by
  simp only [lastId, push_startingId, push_states, List.length_append, List.length_singleton,
    Nat.add_assoc]

/-- Creation leaves the states where they are and puts the new one after them. -/
theorem getElem?_push_eq_some {i : Nat} {name : String} {kind : Kind} {owner : Scope} :
    (r.push name kind owner).states[i]? = some s ↔ r.states[i]? = some s ∨
      i = r.states.length ∧ s = State.blank (r.lastId + 1) name kind owner := by
  rw [push_states]
  by_cases old : i < r.states.length
  · rw [List.getElem?_append_left old]
    simp [Nat.ne_of_lt old]
  · have beyond := Nat.not_lt.mp old
    rw [List.getElem?_append_right beyond, List.getElem?_eq_none beyond, List.getElem?_singleton]
    by_cases next : i = r.states.length
    · simp [next, eq_comm]
    · have past : i - r.states.length ≠ 0 := by omega
      simp [next, past]

/-- Changing a state leaves the others where they are. -/
theorem modify_eq (r : Registry) (id : StateId) (change : State → State) :
    r.modify id change = r ∨
      ∃ position, r.modify id change = { r with states := r.states.modify position change } := by
  unfold modify
  split
  · exact .inl rfl
  · exact .inr ⟨_, rfl⟩

@[simp] theorem modify_startingId (r : Registry) (id : StateId) (change : State → State) :
    (r.modify id change).startingId = r.startingId := by
  rcases r.modify_eq id change with same | ⟨position, same⟩ <;> rw [same]

@[simp] theorem modify_lastId (r : Registry) (id : StateId) (change : State → State) :
    (r.modify id change).lastId = r.lastId := by
  rcases r.modify_eq id change with same | ⟨position, same⟩ <;> simp [same, lastId]

/-- The state at a place is the one that was there, changed or not. -/
theorem exists_of_getElem?_modify {i : Nat} (held : (r.modify id change).states[i]? = some s) :
    ∃ before, r.states[i]? = some before ∧ (s = before ∨ s = change before) := by
  rcases r.modify_eq id change with same | ⟨position, same⟩
  · rw [same] at held
    exact ⟨s, held, .inl rfl⟩
  · rw [same] at held
    simp only [List.getElem?_modify] at held
    obtain ⟨before, there, rfl⟩ := Option.map_eq_some_iff.mp held
    refine ⟨before, there, ?_⟩
    split
    · exact .inr rfl
    · exact .inl rfl

/-- So each of the states is one that was there, changed or not. -/
theorem exists_of_mem_modify (member : s ∈ (r.modify id change).states) :
    ∃ before ∈ r.states, s = before ∨ s = change before := by
  obtain ⟨i, held⟩ := List.mem_iff_getElem?.mp member
  obtain ⟨before, there, changed⟩ := exists_of_getElem?_modify held
  exact ⟨before, List.mem_of_getElem? there, changed⟩

theorem exists_getElem?_modify {i : Nat} (held : r.states[i]? = some s) (id : StateId)
    (change : State → State) :
    ∃ after, (r.modify id change).states[i]? = some after ∧ (after = s ∨ after = change s) := by
  rcases r.modify_eq id change with same | ⟨position, same⟩
  · rw [same]
    exact ⟨s, held, .inl rfl⟩
  · rw [same]
    simp only [List.getElem?_modify, held]
    refine ⟨_, rfl, ?_⟩
    split
    · exact .inr rfl
    · exact .inl rfl

/-- If there is no such state, a change touches nothing. -/
theorem modify_of_get?_eq_none (unknown : r.get? id = none) (change : State → State) :
    r.modify id change = r := by
  unfold get? at unknown
  unfold modify
  cases there : r.position? id with
  | none => rfl
  | some position =>
    rw [there] at unknown
    have untouched : r.states.modify position change = r.states := by
      rw [List.modify_eq_self]
      exact List.getElem?_eq_none_iff.mp unknown
    simp only [untouched]

/-- Listing a transition is a change of the state it leaves. -/
theorem addTransition?_getD (r : Registry) (t : Transition) :
    (r.addTransition? t).getD r = r.modify t.source (·.addTransition t) := by
  unfold addTransition?
  cases held : r.get? t.source with
  | none => exact (modify_of_get?_eq_none held _).symm
  | some s => rfl

/-- Some state bears this number. -/
def Known (r : Registry) (id : StateId) : Prop :=
  ∃ s ∈ r.states, s.id = id

theorem Known.push (known : r.Known id) (name : String) (kind : Kind) (owner : Scope) :
    (r.push name kind owner).Known id := by
  obtain ⟨s, member, named⟩ := known
  exact ⟨s, List.mem_append_left _ member, named⟩

theorem Known.modify (known : r.Known id) (other : StateId) (kept : ∀ s, (change s).id = s.id) :
    (r.modify other change).Known id := by
  obtain ⟨s, member, rfl⟩ := known
  obtain ⟨i, held⟩ := List.mem_iff_getElem?.mp member
  obtain ⟨after, there, rfl | rfl⟩ := exists_getElem?_modify held other change
  · exact ⟨_, List.mem_of_getElem? there, rfl⟩
  · exact ⟨_, List.mem_of_getElem? there, kept s⟩

/-- The number of a state follows from its place: numbers are handed out without a gap. -/
def Numbered (r : Registry) : Prop :=
  ∀ i s, r.states[i]? = some s → s.id = r.startingId + 1 + i

theorem numbered_empty (startingId : StateId) : (empty startingId).Numbered := by
  intro i s held
  simp [empty] at held

theorem Numbered.push (numbered : r.Numbered) (name : String) (kind : Kind) (owner : Scope) :
    (r.push name kind owner).Numbered := by
  intro i s held
  rcases getElem?_push_eq_some.mp held with old | ⟨rfl, rfl⟩
  · exact numbered i s old
  · simp only [State.blank, lastId, push_startingId]
    lia

theorem Numbered.modify (numbered : r.Numbered) (id : StateId)
    (kept : ∀ s, (change s).id = s.id) : (r.modify id change).Numbered := by
  intro i s held
  rw [modify_startingId]
  obtain ⟨before, there, rfl | rfl⟩ := exists_of_getElem?_modify held
  · exact numbered i _ there
  · rw [kept]
    exact numbered i before there

/-- A number that was handed out belongs to the state at its place, and to no other. -/
theorem Numbered.known_iff (numbered : r.Numbered) :
    r.Known id ↔ r.startingId < id ∧ id ≤ r.lastId := by
  constructor
  · rintro ⟨s, member, rfl⟩
    obtain ⟨i, held⟩ := List.mem_iff_getElem?.mp member
    have bound := (List.getElem?_eq_some_iff.mp held).1
    rw [numbered i s held, lastId]
    lia
  · rintro ⟨above, within⟩
    rw [lastId] at within
    have bound : id - r.startingId - 1 < r.states.length := by lia
    have held := List.getElem?_eq_getElem bound
    refine ⟨_, List.mem_of_getElem? held, ?_⟩
    rw [numbered _ _ held]
    lia

theorem Numbered.get?_eq_some_iff (numbered : r.Numbered) :
    r.get? id = some s ↔ s ∈ r.states ∧ s.id = id := by
  unfold get? position?
  constructor
  · intro held
    split at held
    · rename_i above
      have there : r.states[id - r.startingId - 1]? = some s := held
      refine ⟨List.mem_of_getElem? there, ?_⟩
      rw [numbered _ _ there]
      lia
    · contradiction
  · rintro ⟨member, rfl⟩
    obtain ⟨i, held⟩ := List.mem_iff_getElem?.mp member
    have place := numbered i s held
    rw [if_pos (by lia)]
    show r.states[s.id - r.startingId - 1]? = some s
    rw [show s.id - r.startingId - 1 = i by lia, held]

/-- Two states of a numbered registry with the same number are one state. -/
theorem Numbered.eq_of_id_eq (numbered : r.Numbered) (first : s ∈ r.states) (second : t ∈ r.states)
    (same : s.id = t.id) : s = t :=
  Option.some.inj ((numbered.get?_eq_some_iff.mpr ⟨first, same⟩).symm.trans
    (numbered.get?_eq_some_iff.mpr ⟨second, rfl⟩))

theorem Numbered.nodup (numbered : r.Numbered) : (r.states.map (·.id)).Nodup := by
  rw [List.Nodup, List.pairwise_iff_getElem]
  intro i j boundI boundJ before
  simp only [List.length_map] at boundI boundJ
  have here := numbered i _ (List.getElem?_eq_getElem boundI)
  have there := numbered j _ (List.getElem?_eq_getElem boundJ)
  simp only [List.getElem_map, here, there]
  lia

/-- Changing the state with a number is changing every state with that number. -/
theorem Numbered.modify_states (numbered : r.Numbered) (id : StateId) (change : State → State) :
    (r.modify id change).states = r.states.map fun s => if s.id = id then change s else s := by
  unfold Registry.modify position?
  apply List.ext_getElem?
  intro i
  rw [List.getElem?_map]
  cases held : r.states[i]? with
  | none =>
    split
    · simp [held]
    · simp [List.getElem?_modify, held]
  | some s =>
    have place := numbered i s held
    split
    · rename_i nowhere
      split at nowhere
      · contradiction
      · simp only [held, Option.map_some]
        rw [if_neg (by lia)]
    · rename_i position somewhere
      split at somewhere
      · rename_i above
        cases somewhere
        simp only [List.getElem?_modify, held, Option.map_some]
        have agree : id - r.startingId - 1 = i ↔ s.id = id := by lia
        simp only [agree]
        rfl
      · contradiction

end Statechart.Registry
