import Mathlib
import Statechart.Proofs.GraphView
import Statechart.Proofs.Moves

/-! Who owns whom. An owner is either the innermost open scope or a composite state that the text
names, and both are states that exist already. So every owner stands before what it owns, however
scopes are opened, opened again and closed: owners never lead round in a circle, and following them
out to the diagram counts the states around a state. -/
namespace Statechart

/-- One state of a list belongs to another one of it. -/
def Owns (states : List State) (owner member : State) : Prop :=
  owner ∈ states ∧ member ∈ states ∧ member.owner = .state owner.id

/-- The owner of a state, the owner's owner, and so on. -/
def IsAncestor (states : List State) : State → State → Prop :=
  Relation.TransGen (Owns states)

theorem IsAncestor.exists_owns {states : List State} {s t : State} (above : IsAncestor states t s) :
    ∃ member, Owns states t member := by
  obtain ⟨member, owns, -⟩ := Relation.TransGen.head'_iff.mp above
  exact ⟨member, owns⟩

namespace Registry

variable {r : Registry} {s t : State} {change : State → State}

/-- Every owner is there before what belongs to it, under a number of its own. -/
structure Forest (r : Registry) : Prop where
  numbered : r.Numbered
  /-- The owner of a state is found at an earlier place. -/
  owner_earlier : ∀ (i : Nat) (s : State) (id : StateId), r.states[i]? = some s →
    s.owner = .state id → ∃ j < i, ∃ owner : State, r.states[j]? = some owner ∧ owner.id = id

theorem forest_empty (startingId : StateId) : (empty startingId).Forest where
  numbered := numbered_empty startingId
  owner_earlier i s id held := by simp [empty] at held

/-- A new state comes last, so its owner is there before it. -/
theorem Forest.push (forest : r.Forest) (name : String) (kind : Kind) {owner : Scope}
    (known : ∀ id, owner = .state id → r.Known id) : (r.push name kind owner).Forest where
  numbered := forest.numbered.push name kind owner
  owner_earlier i s id held owned := by
    rcases getElem?_push_eq_some.mp held with old | ⟨rfl, rfl⟩
    · obtain ⟨j, earlier, t, there, named⟩ := forest.owner_earlier i s id old owned
      exact ⟨j, earlier, t, getElem?_push_eq_some.mpr (.inl there), named⟩
    · obtain ⟨t, member, named⟩ := known id owned
      obtain ⟨j, there⟩ := List.mem_iff_getElem?.mp member
      have earlier := (List.getElem?_eq_some_iff.mp there).1
      exact ⟨j, earlier, t, getElem?_push_eq_some.mpr (.inl there), named⟩

/-- Texts and transitions do not move anything. -/
theorem Forest.modify (forest : r.Forest) (id : StateId) (sameId : ∀ s, (change s).id = s.id)
    (sameOwner : ∀ s, (change s).owner = s.owner) : (r.modify id change).Forest where
  numbered := forest.numbered.modify id sameId
  owner_earlier i s number held owned := by
    obtain ⟨before, there, changed⟩ := exists_of_getElem?_modify held
    have ownedBefore : before.owner = .state number := by
      rcases changed with rfl | rfl
      · exact owned
      · rw [← sameOwner]
        exact owned
    obtain ⟨j, earlier, owner, ownerThere, named⟩ :=
      forest.owner_earlier i before number there ownedBefore
    obtain ⟨after, afterThere, rfl | rfl⟩ := exists_getElem?_modify ownerThere id change
    · exact ⟨j, earlier, _, afterThere, named⟩
    · exact ⟨j, earlier, _, afterThere, (sameId owner).trans named⟩

/-- An owner has the smaller number. -/
theorem Forest.id_lt_of_owns (forest : r.Forest) (owns : Owns r.states t s) : t.id < s.id := by
  obtain ⟨ownerInside, inside, owned⟩ := owns
  obtain ⟨i, there⟩ := List.mem_iff_getElem?.mp inside
  obtain ⟨j, earlier, owner, ownerThere, named⟩ := forest.owner_earlier i s t.id there owned
  have place := forest.numbered i s there
  have ownerPlace := forest.numbered j owner ownerThere
  lia

/-- Whatever a state belongs to is one of the states. -/
theorem Forest.exists_owns (forest : r.Forest) {id : StateId} (member : s ∈ r.states)
    (owned : s.owner = .state id) : ∃ t, t.id = id ∧ Owns r.states t s := by
  obtain ⟨i, there⟩ := List.mem_iff_getElem?.mp member
  obtain ⟨j, -, t, ownerThere, rfl⟩ := forest.owner_earlier i s id there owned
  exact ⟨t, rfl, List.mem_of_getElem? ownerThere, member, owned⟩

/-- The state created last owns nothing. -/
theorem Forest.owner_ne_last (forest : r.Forest) (member : s ∈ r.states) :
    s.owner ≠ .state r.lastId := by
  intro owned
  obtain ⟨t, last, owns⟩ := forest.exists_owns member owned
  have smaller := forest.id_lt_of_owns owns
  have bound := (forest.numbered.known_iff.mp ⟨s, member, rfl⟩).2
  rw [last] at smaller
  exact Nat.not_lt.mpr bound smaller

theorem Forest.id_lt_of_isAncestor (forest : r.Forest) (above : IsAncestor r.states t s) :
    t.id < s.id := by
  induction above with
  | single owns => exact forest.id_lt_of_owns owns
  | tail _ owns ih => exact Nat.lt_trans ih (forest.id_lt_of_owns owns)

/-- No state is around itself. -/
theorem Forest.not_isAncestor_self (forest : r.Forest) (s : State) : ¬ IsAncestor r.states s s :=
  fun above => Nat.lt_irrefl _ (forest.id_lt_of_isAncestor above)

/-- A state of the diagram itself has nothing around it. -/
theorem not_isAncestor_of_root (owned : s.owner = .root) : ¬ IsAncestor r.states t s := by
  intro above
  obtain ⟨owner, -, -, -, other⟩ := Relation.TransGen.tail'_iff.mp above
  rw [owned] at other
  cases other

/-- Around any other state there are its owner and what is around the owner. -/
theorem Forest.isAncestor_iff (forest : r.Forest) {owner : State} (owns : Owns r.states owner s) :
    IsAncestor r.states t s ↔ t = owner ∨ IsAncestor r.states t owner := by
  unfold IsAncestor
  rw [Relation.TransGen.tail'_iff]
  constructor
  · rintro ⟨last, path, inside, -, owned⟩
    have sameId : owner.id = last.id := Scope.state.inj (owns.2.2.symm.trans owned)
    obtain rfl := forest.numbered.eq_of_id_eq owns.1 inside sameId
    rcases Relation.reflTransGen_iff_eq_or_transGen.mp path with same | above
    · exact .inl same.symm
    · exact .inr above
  · rintro (rfl | above)
    · exact ⟨_, .refl, owns⟩
    · exact ⟨owner, above.to_reflTransGen, owns⟩

theorem finite_ancestors (r : Registry) (s : State) : {t | IsAncestor r.states t s}.Finite := by
  refine r.states.finite_toSet.subset ?_
  intro t above
  obtain ⟨_, inside, -⟩ := above.exists_owns
  exact inside

theorem Forest.state?_eq_some (forest : r.Forest) (member : s ∈ r.states) :
    (Graph.ofStates r.states).state? s.id = some s := by
  apply Graph.state?_eq_some
  · intro other there same
    rw [Graph.ofStates_states] at there
    exact forest.numbered.eq_of_id_eq there member same
  · rw [Graph.ofStates_states]
    exact member

theorem ancestors_of_root (r : Registry) (owned : s.owner = .root) :
    {t | IsAncestor r.states t s} = ∅ :=
  Set.eq_empty_iff_forall_notMem.mpr fun _ => not_isAncestor_of_root owned

/-- There is one state more around a state than around its owner. -/
theorem Forest.ncard_ancestors (forest : r.Forest) {owner : State} (owns : Owns r.states owner s) :
    {t | IsAncestor r.states t s}.ncard = {t | IsAncestor r.states t owner}.ncard + 1 := by
  have around : {t | IsAncestor r.states t s} = insert owner {t | IsAncestor r.states t owner} := by
    ext t
    exact forest.isAncestor_iff owns
  have outside : owner ∉ {t | IsAncestor r.states t owner} := forest.not_isAncestor_self owner
  rw [around, Set.ncard_insert_of_notMem outside (r.finite_ancestors owner)]

/-- Following the owners out takes as many steps as there are states around a state, and there are
fewer of them than states before it. -/
theorem Forest.climb?_eq (forest : r.Forest) {i steps : Nat} (there : r.states[i]? = some s)
    (enough : i ≤ steps) :
    (Graph.ofStates r.states).climb? steps s = some {t | IsAncestor r.states t s}.ncard := by
  induction i using Nat.strong_induction_on generalizing steps s with
  | _ i ih =>
    have member := List.mem_of_getElem? there
    cases owned : s.owner with
    | root => rw [Graph.climb?_of_root owned, r.ancestors_of_root owned, Set.ncard_empty]
    | state id =>
      obtain ⟨j, earlier, owner, ownerThere, rfl⟩ := forest.owner_earlier i s id there owned
      have ownerMember := List.mem_of_getElem? ownerThere
      obtain ⟨left, rfl⟩ : ∃ left, steps = left + 1 := ⟨steps - 1, by omega⟩
      have climbed := ih j earlier ownerThere (show j ≤ left by omega)
      rw [Graph.climb?_of_state owned, forest.state?_eq_some ownerMember, Option.bind_some, climbed,
        Option.map_some, forest.ncard_ancestors ⟨ownerMember, member, owned⟩]

/-- The depth of a state is the number of states around it. -/
theorem Forest.depth?_eq (forest : r.Forest) (member : s ∈ r.states) :
    (Graph.ofStates r.states).depth? s.id = some {t | IsAncestor r.states t s}.ncard := by
  obtain ⟨i, there⟩ := List.mem_iff_getElem?.mp member
  have bound := (List.getElem?_eq_some_iff.mp there).1
  unfold Graph.depth?
  rw [forest.state?_eq_some member, Option.bind_some]
  apply forest.climb?_eq there
  rw [Graph.nodes_length, Graph.ofStates_states]
  exact Nat.le_of_lt bound

end Registry

namespace Reading

variable {o : Options} {r next : Reading}

/-- What keeps owners before members: every open scope is a state that exists. -/
structure Rooted (r : Reading) : Prop where
  /-- The states that exist form a forest. -/
  forest : r.draft.registry.Forest
  /-- Every open composite state exists. -/
  open_known : ∀ id ∈ r.draft.nesting.enclosing, r.draft.registry.Known id

theorem start_rooted (startingId : StateId) : (start startingId).Rooted where
  forest := Registry.forest_empty startingId
  open_known _ opened := nomatch opened

/-- The innermost scope is a state that exists, or the diagram itself. -/
theorem Rooted.scope_known (rooted : r.Rooted) {id : StateId}
    (scope : r.draft.nesting.scope = .state id) : r.draft.registry.Known id := by
  unfold Nesting.scope at scope
  split at scope
  · cases scope
  · rename_i inner outer opened
    cases scope
    apply rooted.open_known
    rw [opened]
    exact List.mem_cons_self

private theorem Rooted.modify (rooted : r.Rooted) (id : StateId) {change : State → State}
    (sameId : ∀ s, (change s).id = s.id) (sameOwner : ∀ s, (change s).owner = s.owner) :
    (r.modify id change).Rooted where
  forest := rooted.forest.modify id sameId sameOwner
  open_known other opened := (rooted.open_known other opened).modify id sameId

/-- Every move keeps owners before members. -/
theorem Move.rooted {listed : Option Transition} (move : Move o listed r next) (rooted : r.Rooted) :
    next.Rooted := by
  cases move with
  | bind => exact ⟨rooted.forest, rooted.open_known⟩
  | report => exact ⟨rooted.forest, rooted.open_known⟩
  | @create _ raw role place stereotype missing left declared =>
    have known : ∀ id, place.owner = .state id → r.draft.registry.Known id := by
      intro id owned
      rcases Draft.owner_of_resolve missing with scope | ⟨s, member, named⟩
      · exact rooted.scope_known (scope.symm.trans owned)
      · cases named.symm.trans owned
        exact ⟨s, member, rfl⟩
    exact {
      forest := rooted.forest.push _ _ known
      open_known := fun id opened => (rooted.open_known id opened).push _ _ _ }
  | annotate => exact rooted.modify _ (fun _ => rfl) (fun _ => rfl)
  | connect =>
    rw [addTransition_eq]
    exact rooted.modify _ (fun _ => rfl) (fun _ => rfl)
  | enter known =>
    refine ⟨rooted.forest, ?_⟩
    intro id opened
    rcases List.mem_cons.mp opened with rfl | outer
    · exact known
    · exact rooted.open_known id outer
  | leave => exact ⟨rooted.forest, fun id opened => rooted.open_known id (List.mem_of_mem_tail opened)⟩

theorem Moves.rooted (moves : Moves o r next) (rooted : r.Rooted) : next.Rooted :=
  moves.preserves Move.rooted rooted

end Reading

/-- The states of a diagram form a forest. Every composite state stands before what belongs to it, no
state is around itself, and the depth of a state is the number of states around it. -/
theorem ownership_forest {o : Options} {text : String} {a : Analysis}
    (read : analyze o text = .ok a) :
    (∀ (i : Nat) (s : State) (id : StateId), a.states[i]? = some s → s.owner = .state id →
      ∃ j < i, ∃ owner, a.states[j]? = some owner ∧ owner.id = id) ∧
    (∀ s, ¬ IsAncestor a.states s s) ∧
    ∀ s ∈ a.states, (Graph.ofStates a.states).depth? s.id =
      some {t | IsAncestor a.states t s}.ncard := by
  obtain ⟨r, ran, rfl⟩ := analyze_eq_ok_iff.mp read
  have forest := ((Reading.run_moves ran).rooted (Reading.start_rooted _)).forest
  exact ⟨forest.owner_earlier, forest.not_isAncestor_self, fun s => forest.depth?_eq⟩

/-- A composite state that is opened a second time from elsewhere, with a brace too many in between
and histories of named states. -/
def reopened : String :=
  "state A \x7b\nstate B \x7b\n[*] --> A[H]\n\x7d\n\x7d\n\x7d\nstate B \x7b\nC --> B[H*]\n\x7d"

theorem ownership_forest_reopened :
    ∃ a, analyze {} reopened = .ok a ∧
      a.states.map (·.owner) = [.root, .state 1, .state 2, .state 1, .state 2, .state 2] ∧
      a.states.map (fun s => (Graph.ofStates a.states).depth? s.id) =
        [some 0, some 1, some 2, some 1, some 2, some 2] ∧
      (∀ s, ¬ IsAncestor a.states s s) ∧
      ∀ s ∈ a.states, (Graph.ofStates a.states).depth? s.id =
        some {t | IsAncestor a.states t s}.ncard := by
  refine ⟨_, by cbv, by cbv, by cbv, ?_⟩
  exact (@ownership_forest {} reopened _ (by cbv)).2

end Statechart
