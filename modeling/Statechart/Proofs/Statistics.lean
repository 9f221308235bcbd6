import Mathlib
import Statechart.Proofs.Conservation
import Statechart.Proofs.Ownership
import Statechart.Proofs.StartsAndEnds

/-! What the statistics of a diagram are worth. Four of the numbers are counted apart from each other, and
what binds them is that the states form a forest: the composite states are those that own something, the
states around a state are some of them, and the last state is none. The starts and ends are bound by
them too, because they lie in the diagram or in a composite state, and at most two in each. -/
namespace Statechart

/-- The composite states that own something, by their numbers, each of them once. -/
def ownerIds (states : List State) : List StateId :=
  (states.filterMap (·.owner.id?)).dedup

theorem mem_ownerIds_iff {states : List State} {id : StateId} :
    id ∈ ownerIds states ↔ ∃ s ∈ states, s.owner = .state id := by
  unfold ownerIds
  rw [List.mem_dedup, List.mem_filterMap]
  refine exists_congr fun s => and_congr_right fun _ => ?_
  cases s.owner <;> simp [Scope.id?]

theorem nodup_ownerIds (states : List State) : (ownerIds states).Nodup :=
  List.nodup_dedup _

namespace Graph

variable {states : List State} {s : State}

/-- A state owns another exactly if its number is the number of an owner. -/
theorem children_isEmpty_eq (states : List State) (id : StateId) :
    (!((ofStates states).children (.state id)).isEmpty) = decide (id ∈ ownerIds states) := by
  rw [Bool.eq_iff_iff, decide_eq_true_eq, mem_ownerIds_iff, Bool.not_eq_true',
    List.isEmpty_eq_false_iff_exists_mem]
  simp [children]

theorem compositeStates_eq (states : List State) :
    (ofStates states).stats.compositeStates = states.countP (·.id ∈ ownerIds states) := by
  simp only [stats, ofStates_states, children_isEmpty_eq]

/-- If no state has a larger depth, the largest depth is no larger. -/
theorem maxDepth_le {bound : Nat}
    (bounded : ∀ s ∈ states, ∀ d, (ofStates states).depth? s.id = some d → d ≤ bound) :
    (ofStates states).stats.maxDepth ≤ bound := by
  simp only [stats, ofStates_states]
  cases largest : (states.filterMap fun s => (ofStates states).depth? s.id).max? with
  | none => exact Nat.zero_le bound
  | some d =>
    obtain ⟨s, member, depth⟩ := List.mem_filterMap.mp (List.max?_mem largest)
    exact bounded s member d depth

/-- Every start or end is a control-flow node, and every one of those is a state. -/
theorem initialStates_le_pseudostates (states : List State) :
    (ofStates states).stats.initialStates ≤ (ofStates states).stats.pseudostates ∧
      (ofStates states).stats.pseudostates ≤ (ofStates states).stats.totalStates := by
  simp only [stats, nodes_length]
  refine ⟨List.countP_mono_left ?_, List.countP_le_length⟩
  intro s _ initial
  rw [beq_iff_eq.mp initial]
  rfl

end Graph

namespace Registry

variable {r : Registry} {s t : State}

theorem Forest.known_of_ownerIds (forest : r.Forest) {id : StateId} (owner : id ∈ ownerIds r.states) :
    r.Known id := by
  obtain ⟨s, member, owned⟩ := mem_ownerIds_iff.mp owner
  obtain ⟨t, named, inside, -⟩ := forest.exists_owns member owned
  exact ⟨t, inside, named⟩

/-- The composite states are as many as the different owners. -/
theorem Forest.compositeStates_eq (forest : r.Forest) :
    (Graph.ofStates r.states).stats.compositeStates = (ownerIds r.states).length := by
  have same : ((r.states.map (·.id)).filter (· ∈ ownerIds r.states)).Perm (ownerIds r.states) := by
    rw [List.perm_ext_iff_of_nodup (forest.numbered.nodup.filter _) (nodup_ownerIds _)]
    intro id
    rw [List.mem_filter, decide_eq_true_eq]
    refine and_iff_right_of_imp fun owner => ?_
    obtain ⟨s, member, named⟩ := forest.known_of_ownerIds owner
    exact List.mem_map.mpr ⟨s, member, named⟩
  rw [Graph.compositeStates_eq, ← same.length_eq, ← List.countP_eq_length_filter, List.countP_map]
  rfl

/-- Whatever is around a state owns something. -/
theorem mem_ownerIds_of_isAncestor (above : IsAncestor r.states t s) : t.id ∈ ownerIds r.states := by
  obtain ⟨member, -, inside, owned⟩ := above.exists_owns
  exact mem_ownerIds_iff.mpr ⟨member, inside, owned⟩

/-- There are no more states around a state than composite states. -/
theorem Forest.ncard_ancestors_le (forest : r.Forest) (s : State) :
    {t | IsAncestor r.states t s}.ncard ≤ (ownerIds r.states).length := by
  rw [← List.toFinset_card_of_nodup (nodup_ownerIds r.states), ← Set.ncard_coe_finset]
  apply Set.ncard_le_ncard_of_injOn (·.id)
  · intro t above
    exact List.mem_toFinset.mpr (mem_ownerIds_of_isAncestor above)
  · intro t above u aboveToo same
    obtain ⟨_, inside, -⟩ := above.exists_owns
    obtain ⟨_, insideToo, -⟩ := aboveToo.exists_owns
    exact forest.numbered.eq_of_id_eq inside insideToo same

theorem Forest.maxDepth_le (forest : r.Forest) :
    (Graph.ofStates r.states).stats.maxDepth ≤ (Graph.ofStates r.states).stats.compositeStates := by
  rw [forest.compositeStates_eq]
  apply Graph.maxDepth_le
  intro s member d depth
  rw [forest.depth?_eq member, Option.some.injEq] at depth
  exact depth ▸ forest.ncard_ancestors_le s

/-- Not every state is composite, because the state created last owns nothing. -/
theorem Forest.compositeStates_lt (forest : r.Forest) (nonempty : r.states ≠ []) :
    (Graph.ofStates r.states).stats.compositeStates < r.states.length := by
  rw [Graph.compositeStates_eq, List.countP_lt_length_iff]
  have created : r.startingId < r.lastId :=
    Nat.lt_add_of_pos_right (List.length_pos_iff.mpr nonempty)
  obtain ⟨last, member, named⟩ := forest.numbered.known_iff.mpr ⟨created, Nat.le_refl _⟩
  refine ⟨last, member, ?_⟩
  rw [decide_eq_false_iff_not, named, mem_ownerIds_iff]
  rintro ⟨s, inside, owned⟩
  exact forest.owner_ne_last inside owned

/-- The starts and ends of a scope are two at most. -/
theorem Paired.card_initials_le (paired : r.Paired) (scope : Scope) :
    ((r.states.filter (·.kind == .initial)).toFinset.filter (·.owner = scope)).card ≤ 2 := by
  have listed : (r.states.filter (·.kind == .initial)).toFinset.filter (·.owner = scope) ⊆
      (r.initialsIn scope).toFinset := by
    intro s member
    rw [← paired.filter_eq]
    simpa [and_assoc] using member
  have bound := paired.at_most_two scope
  rw [initialIds, List.length_map] at bound
  exact (Finset.card_le_card listed).trans ((List.toFinset_card_le _).trans bound)

/-- A start or an end belongs to the diagram or to a composite state, and each has at most two. -/
theorem Forest.initialStates_le (forest : r.Forest) (paired : r.Paired) :
    (Graph.ofStates r.states).stats.initialStates ≤
      2 * ((Graph.ofStates r.states).stats.compositeStates + 1) := by
  have distinct : (r.states.filter (·.kind == .initial)).Nodup :=
    (forest.numbered.nodup.of_map _).filter _
  let scopes : List Scope := .root :: (ownerIds r.states).map .state
  have inside : ∀ s ∈ (r.states.filter (·.kind == .initial)).toFinset, s.owner ∈ scopes.toFinset := by
    intro s initial
    have member := (List.mem_filter.mp (List.mem_toFinset.mp initial)).1
    rw [List.mem_toFinset, List.mem_cons, List.mem_map]
    cases owned : s.owner with
    | root => exact .inl rfl
    | state id => exact .inr ⟨id, mem_ownerIds_iff.mpr ⟨s, member, owned⟩, rfl⟩
  have few : scopes.toFinset.card ≤ (ownerIds r.states).length + 1 := by
    refine (List.toFinset_card_le scopes).trans_eq ?_
    simp [scopes]
  rw [forest.compositeStates_eq]
  -- The starts and ends are counted scope by scope.
  calc (Graph.ofStates r.states).stats.initialStates
      = (r.states.filter (·.kind == .initial)).toFinset.card := by
        rw [List.toFinset_card_of_nodup distinct, ← List.countP_eq_length_filter]
        simp only [Graph.stats, Graph.ofStates_states]
    _ ≤ 2 * scopes.toFinset.card :=
        Finset.card_le_mul_card_image_of_maps_to inside 2 fun scope _ => paired.card_initials_le scope
    _ ≤ 2 * ((ownerIds r.states).length + 1) := Nat.mul_le_mul_left 2 few

end Registry

/-- The statistics of a diagram count its states, the lines that are transitions, and the different
owners. No state lies in more composite states than there are, not every state is composite, and there
are two starts and ends at most for the diagram and for each composite state. -/
theorem stats_of_analyze {o : Options} {text : String} {a : Analysis} (read : analyze o text = .ok a) :
    (Graph.ofStates a.states).stats.totalStates = a.states.length ∧
    (Graph.ofStates a.states).stats.totalTransitions = (numberedLines text).countP (·.1.isTransition) ∧
    (Graph.ofStates a.states).stats.compositeStates = (a.states.filterMap (·.owner.id?)).dedup.length ∧
    (Graph.ofStates a.states).stats.maxDepth ≤ (Graph.ofStates a.states).stats.compositeStates ∧
    (a.states ≠ [] → (Graph.ofStates a.states).stats.compositeStates <
      (Graph.ofStates a.states).stats.totalStates) ∧
    (Graph.ofStates a.states).stats.initialStates ≤
      2 * ((Graph.ofStates a.states).stats.compositeStates + 1) ∧
    (Graph.ofStates a.states).stats.initialStates ≤ (Graph.ofStates a.states).stats.pseudostates ∧
    (Graph.ofStates a.states).stats.pseudostates ≤ (Graph.ofStates a.states).stats.totalStates := by
  obtain ⟨r, ran, rfl⟩ := analyze_eq_ok_iff.mp read
  have moves := Reading.run_moves ran
  have forest := (moves.rooted (Reading.start_rooted _)).forest
  have paired := moves.paired (Registry.paired_empty _)
  obtain ⟨written, lineByLine, lists⟩ := Reading.run_lists (Reading.start_lists _) ran
  have states : (Graph.ofStates r.toAnalysis.states).stats.totalStates = r.toAnalysis.states.length := by
    simp only [Graph.stats, Graph.nodes_length, Graph.ofStates_states]
  have transitions : (Graph.ofStates r.toAnalysis.states).stats.totalTransitions =
      (numberedLines text).countP (·.1.isTransition) := by
    rw [List.countP_eq_length_filter, lineByLine.length_eq, ← lists.transitionCount_eq]
    exact lists.edgeCount_eq
  refine ⟨states, transitions, forest.compositeStates_eq, forest.maxDepth_le, ?_,
    forest.initialStates_le paired, Graph.initialStates_le_pseudostates _⟩
  rw [states]
  exact forest.compositeStates_lt

/-- A composite state in another one, with a start in each of the three scopes and an end in one. -/
def nestedStarts : String :=
  "state A \x7b\n[*] --> B\nB --> [*]\nstate C \x7b\n[*] --> D\n\x7d\n\x7d\n[*] --> A : go"

theorem stats_of_analyze_nestedStarts :
    ∃ a, analyze {} nestedStarts = .ok a ∧ a.states ≠ [] ∧
      a.states.map (·.owner) =
        [.root, .state 1, .state 1, .state 1, .state 1, .state 5, .state 5, .root] ∧
      (Graph.ofStates a.states).stats.totalTransitions = 4 ∧
      (Graph.ofStates a.states).stats.compositeStates = 2 ∧
      (Graph.ofStates a.states).stats.maxDepth ≤ 2 ∧
      2 < (Graph.ofStates a.states).stats.totalStates ∧
      (Graph.ofStates a.states).stats.initialStates ≤ 6 := by
  obtain ⟨a, read, nonempty, owners⟩ : ∃ a, analyze {} nestedStarts = .ok a ∧ a.states ≠ [] ∧
      a.states.map (·.owner) =
        [.root, .state 1, .state 1, .state 1, .state 1, .state 5, .state 5, .root] :=
    ⟨_, by cbv, by simp, by cbv⟩
  obtain ⟨-, transitions, composite, depth, fewer, initials, -, -⟩ := stats_of_analyze read
  have two : (a.states.filterMap (·.owner.id?)).dedup.length = 2 := by
    have listed : a.states.filterMap (·.owner.id?) = (a.states.map (·.owner)).filterMap Scope.id? := by
      rw [List.filterMap_map]
      rfl
    rw [listed, owners]
    decide
  rw [composite, two] at depth initials fewer
  exact ⟨a, read, nonempty, owners, transitions.trans (by cbv), composite.trans two, depth,
    fewer nonempty, initials⟩

end Statechart
