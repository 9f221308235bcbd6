import Mathlib
import Statechart.Proofs.GraphView

/-! Following owners through any states. The owners may lead out to the diagram, to a number that no
state bears, or round in a circle. A chain with more steps than there are different numbers meets some
state twice, because a number always means the same state; and a chain that meets a state twice never
gets out. So a bound on the steps cuts off nothing that would have reached the diagram, if it allows
one step for each number. -/
namespace Statechart

namespace Graph

variable {g : Graph} {s t top : State} {id : StateId} {m n steps : Nat}

/-- Following the owners of a state leads to another one after so many steps. -/
inductive Climbs (g : Graph) : Nat → State → State → Prop where
  /-- No step is taken. -/
  | here (s : State) : Climbs g 0 s s
  /-- The first step goes to the state that the owner's number means. -/
  | up {s owner top : State} {id : StateId} {steps : Nat} (owned : s.owner = .state id)
    (known : g.state? id = some owner) (further : Climbs g steps owner top) :
    Climbs g (steps + 1) s top

/-- The owner of a state is a number that means nothing. -/
def Orphan (g : Graph) (s : State) : Prop :=
  ∃ id, s.owner = .state id ∧ g.state? id = none

/-- How many different numbers the states bear. -/
def numberCount (g : Graph) : Nat :=
  (g.states.map (·.id)).dedup.length

theorem Climbs.trans (first : g.Climbs m s t) (second : g.Climbs n t top) :
    g.Climbs (m + n) s top := by
  induction first with
  | here s => simpa using second
  | up owned known _ ih =>
    rw [Nat.add_right_comm]
    exact .up owned known (ih second)

theorem Climbs.split (climbs : g.Climbs (m + n) s top) :
    ∃ t, g.Climbs m s t ∧ g.Climbs n t top := by
  induction m generalizing s with
  | zero => exact ⟨s, .here s, by simpa using climbs⟩
  | succ m ih =>
    rw [Nat.add_right_comm] at climbs
    cases climbs with
    | up owned known further =>
      obtain ⟨t, below, above⟩ := ih further
      exact ⟨t, .up owned known below, above⟩

/-- So many steps lead to one state only. -/
theorem Climbs.unique {u : State} (climbs : g.Climbs n s t) (again : g.Climbs n s u) : t = u := by
  induction climbs with
  | here s =>
    cases again
    rfl
  | up owned known _ ih =>
    cases again with
    | up ownedToo knownToo further =>
      cases owned.symm.trans ownedToo
      cases known.symm.trans knownToo
      exact ih further

/-- A chain that leads out passes through every state that any steps lead to. -/
theorem Climbs.rest (climbs : g.Climbs n s t) (reaches : g.Climbs m s top)
    (outermost : top.owner = .root) : ∃ left, m = n + left ∧ g.Climbs left t top := by
  induction climbs generalizing m with
  | here s => exact ⟨m, (Nat.zero_add m).symm, reaches⟩
  | up owned known _ ih =>
    cases reaches with
    | here => cases outermost.symm.trans owned
    | up ownedToo knownToo further =>
      cases owned.symm.trans ownedToo
      cases known.symm.trans knownToo
      obtain ⟨left, rfl, above⟩ := ih further
      exact ⟨left, by omega, above⟩

/-- Following owners leads out to the diagram after so many steps. -/
def LeadsOut (g : Graph) (n : Nat) (s : State) : Prop :=
  ∃ top, g.Climbs n s top ∧ top.owner = .root

/-- There is one number of steps to the diagram at most. -/
theorem LeadsOut.unique (leadsOut : g.LeadsOut m s) (again : g.LeadsOut n s) : m = n := by
  obtain ⟨top, reaches, outermost⟩ := leadsOut
  obtain ⟨topToo, reachesToo, outermostToo⟩ := again
  obtain ⟨left, rfl, above⟩ := reachesToo.rest reaches outermost
  cases above with
  | here => rfl
  | up owned => cases outermostToo.symm.trans owned

/-- A chain that leads out meets no state whose owner is unknown. -/
theorem LeadsOut.not_orphan (leadsOut : g.LeadsOut m s) (climbs : g.Climbs n s t) : ¬ g.Orphan t := by
  rintro ⟨id, owned, unknown⟩
  obtain ⟨top, reaches, outermost⟩ := leadsOut
  obtain ⟨left, -, above⟩ := climbs.rest reaches outermost
  cases above with
  | here => cases outermost.symm.trans owned
  | up ownedToo known =>
    cases owned.symm.trans ownedToo
    cases unknown.symm.trans known

/-- A chain that leads out meets no state twice. -/
theorem LeadsOut.not_return {k : Nat} (leadsOut : g.LeadsOut m s) (climbs : g.Climbs n s t) :
    ¬ g.Climbs (k + 1) t t := by
  intro returns
  obtain ⟨top, reaches, outermost⟩ := leadsOut
  obtain ⟨left, -, above⟩ := climbs.rest reaches outermost
  have longer : g.LeadsOut (k + 1 + left) t := ⟨top, returns.trans above, outermost⟩
  have same : k + 1 + left = left := longer.unique ⟨top, above, outermost⟩
  omega

/-- A state that a number means is the one that its own number means. -/
theorem state?_id (found : g.state? id = some s) : g.state? s.id = some s := by
  obtain ⟨-, -, -, named, -⟩ := state?_eq_some_iff.mp found
  rw [named, found]

theorem Climbs.state?_id (climbs : g.Climbs n s t) (known : g.state? s.id = some s) :
    g.state? t.id = some t := by
  induction climbs with
  | here s => exact known
  | up _ found _ ih => exact ih (Graph.state?_id found)

theorem id_mem_of_state? (found : g.state? id = some s) : s.id ∈ g.states.map (·.id) := by
  obtain ⟨before, after, shape, -⟩ := state?_eq_some_iff.mp found
  simp [shape]

/-- A chain with as many steps as there are different numbers meets some state twice: it meets one
state more than that, and states with the same number are the same. -/
theorem Climbs.exists_return (climbs : g.Climbs n s top) (known : g.state? s.id = some s)
    (many : g.numberCount ≤ n) : ∃ i t k, g.Climbs i s t ∧ g.Climbs (k + 1) t t := by
  have met (i : Nat) : ∃ t, i ≤ n → g.Climbs i s t := by
    by_cases inside : i ≤ n
    · obtain ⟨left, rfl⟩ := Nat.exists_eq_add_of_le inside
      obtain ⟨t, below, -⟩ := climbs.split
      exact ⟨t, fun _ => below⟩
    · exact ⟨s, fun h => absurd h inside⟩
  choose stop reached using met
  -- The states met after no step up to all of them are one more than the numbers.
  have fewer : (g.states.map (·.id)).toFinset.card < (Finset.range (n + 1)).card := by
    rw [List.card_toFinset, Finset.card_range]
    exact Nat.lt_succ_of_le many
  have numbered : ∀ i ∈ Finset.range (n + 1), (stop i).id ∈ (g.states.map (·.id)).toFinset := by
    intro i inside
    have climbed := reached i (Nat.lt_succ_iff.mp (Finset.mem_range.mp inside))
    exact List.mem_toFinset.mpr (id_mem_of_state? (climbed.state?_id known))
  obtain ⟨i, inside, j, insideToo, different, same⟩ :=
    Finset.exists_ne_map_eq_of_card_lt_of_maps_to fewer numbered
  wlog earlier : i < j generalizing i j
  · exact this j insideToo i inside different.symm same.symm (by omega)
  have first := reached i (Nat.lt_succ_iff.mp (Finset.mem_range.mp inside))
  have second := reached j (Nat.lt_succ_iff.mp (Finset.mem_range.mp insideToo))
  obtain ⟨k, rfl⟩ : ∃ k, j = i + (k + 1) := ⟨j - i - 1, by omega⟩
  obtain ⟨t, below, between⟩ := second.split
  obtain rfl := first.unique below
  have equal : stop (i + (k + 1)) = stop i := by
    have meansFirst := first.state?_id known
    have meansSecond := second.state?_id known
    rw [same, meansSecond] at meansFirst
    exact Option.some.inj meansFirst
  rw [equal] at between
  exact ⟨i, stop i, k, first, between⟩

/-- A bounded climb answers the number of steps to the diagram, if the bound allows so many. -/
theorem climb?_eq_some_iff : g.climb? steps s = some n ↔ n ≤ steps ∧ g.LeadsOut n s := by
  induction steps generalizing s n with
  | zero =>
    cases owned : s.owner with
    | root =>
      rw [climb?_of_root owned, Option.some.injEq]
      constructor
      · rintro rfl
        exact ⟨Nat.le_refl 0, s, .here s, owned⟩
      · rintro ⟨none, -⟩
        exact (Nat.le_zero.mp none).symm
    | state id =>
      constructor
      · intro climbed
        simp [climb?, owned] at climbed
      · rintro ⟨none, top, reaches, outermost⟩
        obtain rfl := Nat.le_zero.mp none
        cases reaches
        cases outermost.symm.trans owned
  | succ steps ih =>
    cases owned : s.owner with
    | root =>
      have out : g.LeadsOut 0 s := ⟨s, .here s, owned⟩
      rw [climb?_of_root owned, Option.some.injEq]
      constructor
      · rintro rfl
        exact ⟨Nat.zero_le _, out⟩
      · rintro ⟨-, leadsOut⟩
        exact out.unique leadsOut
    | state id =>
      rw [climb?_of_state owned, Option.map_eq_some_iff]
      constructor
      · rintro ⟨m, climbed, rfl⟩
        obtain ⟨owner, known, further⟩ := Option.bind_eq_some_iff.mp climbed
        obtain ⟨bound, top, reaches, outermost⟩ := ih.mp further
        exact ⟨Nat.succ_le_succ bound, top, .up owned known reaches, outermost⟩
      · rintro ⟨bound, top, reaches, outermost⟩
        cases reaches with
        | here => cases outermost.symm.trans owned
        | up ownedToo known further =>
          cases owned.symm.trans ownedToo
          rw [known, Option.bind_some]
          exact ⟨_, ih.mpr ⟨Nat.le_of_succ_le_succ bound, top, further, outermost⟩, rfl⟩

/-- Owners can be followed as often as wanted, unless they lead out or to a number that means nothing. -/
theorem climbs_or_stops (g : Graph) (n : Nat) (s : State) :
    (∃ t, g.Climbs n s t) ∨ (∃ m, g.LeadsOut m s) ∨ ∃ m t, g.Climbs m s t ∧ g.Orphan t := by
  induction n with
  | zero => exact .inl ⟨s, .here s⟩
  | succ n ih =>
    rcases ih with ⟨t, climbs⟩ | stops
    · cases owned : t.owner with
      | root => exact .inr (.inl ⟨n, t, climbs, owned⟩)
      | state id =>
        cases known : g.state? id with
        | none => exact .inr (.inr ⟨n, t, climbs, id, owned, known⟩)
        | some owner => exact .inl ⟨owner, climbs.trans (.up owned known (.here owner))⟩
    · exact .inr stops

/-- There are fewer steps to the diagram than different numbers. -/
theorem LeadsOut.lt_numberCount (leadsOut : g.LeadsOut n s) (known : g.state? s.id = some s) :
    n < g.numberCount := by
  by_contra! many
  have ⟨top, reaches, _⟩ := leadsOut
  obtain ⟨i, t, k, climbs, returns⟩ := reaches.exists_return known many
  exact leadsOut.not_return climbs returns

/-- Owners that do not lead out lead to an unknown one or in a circle. -/
theorem not_leadsOut_iff (known : g.state? s.id = some s) :
    (¬ ∃ n, g.LeadsOut n s) ↔
      ∃ n t, g.Climbs n s t ∧ (g.Orphan t ∨ ∃ k, g.Climbs (k + 1) t t) := by
  constructor
  · intro never
    rcases g.climbs_or_stops g.numberCount s with ⟨top, climbs⟩ | leadsOut | ⟨m, t, climbs, orphan⟩
    · obtain ⟨i, t, k, below, returns⟩ := climbs.exists_return known (Nat.le_refl _)
      exact ⟨i, t, below, .inr ⟨k, returns⟩⟩
    · exact absurd leadsOut never
    · exact ⟨m, t, climbs, .inl orphan⟩
  · rintro ⟨n, t, climbs, orphan | ⟨k, returns⟩⟩ ⟨m, leadsOut⟩
    · exact leadsOut.not_orphan climbs orphan
    · exact leadsOut.not_return climbs returns

/-- With a step for each different number, a climb answers how many steps lead out. -/
theorem bind_climb?_eq_some_iff (enough : g.numberCount ≤ steps) :
    (g.state? id).bind (g.climb? steps) = some n ↔ ∃ s, g.state? id = some s ∧ g.LeadsOut n s := by
  rw [Option.bind_eq_some_iff]
  refine exists_congr fun s => and_congr_right fun found => ?_
  rw [climb?_eq_some_iff]
  refine and_iff_right_of_imp fun leadsOut => ?_
  exact Nat.le_of_lt ((leadsOut.lt_numberCount (state?_id found)).trans_le enough)

theorem numberCount_le (g : Graph) : g.numberCount ≤ g.nodes.length := by
  rw [nodes_length, ← List.length_map (f := fun s : State => s.id)]
  exact (List.dedup_sublist _).length_le

theorem depth?_eq_some_iff : g.depth? id = some n ↔ ∃ s, g.state? id = some s ∧ g.LeadsOut n s :=
  bind_climb?_eq_some_iff g.numberCount_le

theorem depth?_eq_none_iff : g.depth? id = none ↔ g.state? id = none ∨
    ∃ s n t, g.state? id = some s ∧ g.Climbs n s t ∧ (g.Orphan t ∨ ∃ k, g.Climbs (k + 1) t t) := by
  rw [Option.eq_none_iff_forall_ne_some]
  cases found : g.state? id with
  | none => simp [depth?_eq_some_iff, found]
  | some s =>
    have stuck := not_leadsOut_iff (state?_id found)
    rw [not_exists] at stuck
    simpa [depth?_eq_some_iff, found] using stuck

/-- A larger bound on the steps changes nothing. -/
theorem bind_climb?_eq_depth? (enough : g.numberCount ≤ steps) :
    (g.state? id).bind (g.climb? steps) = g.depth? id := by
  ext n
  rw [bind_climb?_eq_some_iff enough, depth?_eq_some_iff]

end Graph

/-- For whatever states, the depth of a number is how many steps lead from the state that it means to a
state of the diagram itself. There is none exactly if the number means no state, or the owners lead to
one that is unknown, or in a circle. As long as one step is allowed for each different number, a bound
on the steps does not change the answer. -/
theorem depth?_exact (states : List State) (id : StateId) :
    (∀ d, (Graph.ofStates states).depth? id = some d ↔
      ∃ s top, (Graph.ofStates states).state? id = some s ∧
        (Graph.ofStates states).Climbs d s top ∧ top.owner = .root) ∧
    ((Graph.ofStates states).depth? id = none ↔
      (Graph.ofStates states).state? id = none ∨
      ∃ s n t, (Graph.ofStates states).state? id = some s ∧ (Graph.ofStates states).Climbs n s t ∧
        ((Graph.ofStates states).Orphan t ∨ ∃ k, (Graph.ofStates states).Climbs (k + 1) t t)) ∧
    ∀ more, ((Graph.ofStates states).state? id).bind
        ((Graph.ofStates states).climb? ((states.map (·.id)).dedup.length + more)) =
      (Graph.ofStates states).depth? id := by
  refine ⟨?_, Graph.depth?_eq_none_iff, ?_⟩
  · intro d
    simp only [Graph.depth?_eq_some_iff, Graph.LeadsOut, exists_and_left]
  · intro more
    apply Graph.bind_climb?_eq_depth?
    rw [Graph.numberCount, Graph.ofStates_states]
    exact Nat.le_add_right _ more

/-- A number that two states share, an owner that is unknown, and two states that own each other. -/
def tangled : List State :=
  [State.blank 1 "A" .plain (.state 1), State.blank 2 "B" .plain (.state 1),
    State.blank 1 "C" .plain .root, State.blank 3 "D" .plain (.state 9),
    State.blank 4 "E" .plain (.state 5), State.blank 5 "F" .plain (.state 4)]

theorem depth?_exact_tangled :
    (Graph.ofStates tangled).depth? 2 = some 1 ∧ (Graph.ofStates tangled).depth? 3 = none ∧
      (Graph.ofStates tangled).depth? 4 = none ∧ (Graph.ofStates tangled).depth? 6 = none := by
  refine ⟨?_, ?_, ?_, ?_⟩
  · exact ((depth?_exact tangled 2).1 1).mpr
      ⟨State.blank 2 "B" .plain (.state 1), State.blank 1 "C" .plain .root, by decide,
        .up rfl (by decide) (.here _), rfl⟩
  · exact (depth?_exact tangled 3).2.1.mpr
      (.inr ⟨State.blank 3 "D" .plain (.state 9), 0, _, by decide, .here _, .inl ⟨9, rfl, by decide⟩⟩)
  · refine (depth?_exact tangled 4).2.1.mpr
      (.inr ⟨State.blank 4 "E" .plain (.state 5), 0, _, by decide, .here _, .inr ⟨1, ?_⟩⟩)
    exact .up rfl (show _ = some (State.blank 5 "F" .plain (.state 4)) by decide)
      (.up rfl (by decide) (.here _))
  · exact (depth?_exact tangled 6).2.1.mpr (.inl (by decide))

end Statechart
