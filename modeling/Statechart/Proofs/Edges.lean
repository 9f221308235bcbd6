import Statechart.Proofs.Conservation

/-! What a graph shows of the transitions. For whatever states it was made of, the edges are the transitions
between two of them, and each number lists its part of them on either side. In a diagram every transition is
an edge, it is listed by the state that it leaves, and no two states share a number. So there the graph says
of every state what the states themselves say. -/
namespace Statechart

/-- Of many states, the only one for which there is something gives all that there is. -/
theorem flatMap_eq_of_unique {α : Type} {states : List State} {s : State} {f : State → List α}
    (member : s ∈ states) (distinct : (states.map (·.id)).Nodup)
    (others : ∀ other ∈ states, other.id ≠ s.id → f other = []) : states.flatMap f = f s := by
  obtain ⟨before, after, rfl⟩ := List.append_of_mem member
  rw [List.map_append, List.map_cons, List.nodup_append, List.nodup_cons] at distinct
  obtain ⟨-, ⟨single, -⟩, apart⟩ := distinct
  have nothingBefore : before.flatMap f = [] := by
    rw [List.flatMap_eq_nil_iff]
    intro other there
    refine others other (List.mem_append_left _ there) ?_
    exact apart _ (List.mem_map_of_mem there) _ List.mem_cons_self
  have nothingAfter : after.flatMap f = [] := by
    rw [List.flatMap_eq_nil_iff]
    intro other there
    refine others other (List.mem_append_right _ (List.mem_cons_of_mem _ there)) ?_
    exact fun same => single (List.mem_map.mpr ⟨other, there, same⟩)
  rw [List.flatMap_append, List.flatMap_cons, nothingBefore, nothingAfter, List.nil_append, List.append_nil]

namespace Reading

variable {r : Reading} {written : List Transition} {s : State}

/-- What leaves a state is what it lists. -/
theorem Lists.filter_edges (lists : r.Lists written) (member : s ∈ r.toAnalysis.states) :
    (Graph.edges r.toAnalysis.states).filter (·.source == s.id) = s.transitions := by
  rw [lists.edges_eq, List.filter_flatMap]
  refine (flatMap_eq_of_unique member lists.numbered.nodup ?_).trans ?_
  · intro other there different
    rw [List.filter_eq_nil_iff]
    intro t inside
    simpa [(lists.known_of_mem there inside).1] using different
  · rw [List.filter_eq_self]
    intro t inside
    simpa using (lists.known_of_mem member inside).1

/-- A graph of a diagram lists under each state what the state lists, the latest transition first. -/
theorem Lists.outgoing_eq (lists : r.Lists written) (member : s ∈ r.toAnalysis.states) :
    (Graph.ofStates r.toAnalysis.states).outgoing s.id = s.transitions.reverse := by
  rw [Graph.outgoing_eq, Graph.ofStates_edgesAt]
  exact congrArg List.reverse (lists.filter_edges member)

/-- The numbers of the states in a graph of a diagram are different. -/
theorem Lists.graph_nodup (lists : r.Lists written) :
    ((Graph.ofStates r.toAnalysis.states).states.map (·.id)).Nodup := by
  rw [Graph.ofStates_states]
  exact lists.numbered.nodup

/-- Nothing leaves the states that list nothing. -/
theorem Lists.sinks_eq (lists : r.Lists written) :
    (Graph.ofStates r.toAnalysis.states).sinks =
      r.toAnalysis.states.filter (·.transitions.isEmpty) := by
  refine (Graph.bare_states_eq lists.graph_nodup .leaving).trans ?_
  rw [Graph.ofStates_states]
  apply List.filter_congr
  intro s member
  rw [← Graph.outgoing_eq, lists.outgoing_eq member, List.isEmpty_reverse]

/-- Nothing enters the states that no transition is to. -/
theorem Lists.sources_eq (lists : r.Lists written) :
    (Graph.ofStates r.toAnalysis.states).sources =
      r.toAnalysis.states.filter fun s =>
        (r.toAnalysis.states.flatMap (·.transitions)).all (·.target != s.id) := by
  refine (Graph.bare_states_eq lists.graph_nodup .entering).trans ?_
  rw [Graph.ofStates_states]
  apply List.filter_congr
  intro s member
  rw [Graph.ofStates_edgesAt, List.isEmpty_reverse, lists.edges_eq, Bool.eq_iff_iff, List.isEmpty_iff,
    List.filter_eq_nil_iff, List.all_eq_true]
  simp [Side.endOf]

end Reading

/-- A graph shows every transition between two of its states once, at the states that it leaves and enters,
the latest one first; where states share a number, they are all shown at the last of them. A graph of a
diagram shows what each state lists, and nothing else. -/
theorem graph_shows_edges :
    (∀ states : List State,
      (Graph.ofStates states).edgeCount = (Graph.edges states).length ∧
      (∀ id, (Graph.ofStates states).outgoing id =
          ((Graph.edges states).filter (·.source == id)).reverse ∧
        (Graph.ofStates states).incoming id =
          ((Graph.edges states).filter (·.target == id)).reverse) ∧
      (∀ id, (∀ s ∈ states, s.id ≠ id) →
        (Graph.ofStates states).outgoing id = [] ∧ (Graph.ofStates states).incoming id = []) ∧
      ((states.map (·.id)).dedup.map fun id => ((Graph.ofStates states).outgoing id).length).sum =
        (Graph.edges states).length ∧
      ((states.map (·.id)).dedup.map fun id => ((Graph.ofStates states).incoming id).length).sum =
        (Graph.edges states).length ∧
      ∀ id s, (Graph.ofStates states).state? id = some s ↔
        ∃ before after, states = before ++ s :: after ∧ s.id = id ∧ ∀ later ∈ after, later.id ≠ id) ∧
    ∀ o text a, analyze o text = .ok a →
      (∀ s ∈ a.states, (Graph.ofStates a.states).outgoing s.id = s.transitions.reverse) ∧
      (Graph.ofStates a.states).edgeCount = a.transitionCount ∧
      (Graph.ofStates a.states).sinks = a.states.filter (·.transitions.isEmpty) ∧
      (Graph.ofStates a.states).sources =
        a.states.filter fun s => (a.states.flatMap (·.transitions)).all (·.target != s.id) := by
  refine ⟨fun states => ⟨Graph.ofStates_edgeCount states, ?_, ?_, ?_, ?_, ?_⟩, ?_⟩
  · intro id
    rw [Graph.outgoing_eq, Graph.incoming_eq]
    exact ⟨Graph.ofStates_edgesAt states .leaving id, Graph.ofStates_edgesAt states .entering id⟩
  · intro id unknown
    rw [Graph.outgoing_eq, Graph.incoming_eq]
    exact ⟨Graph.ofStates_edgesAt_of_unknown unknown .leaving,
      Graph.ofStates_edgesAt_of_unknown unknown .entering⟩
  · exact Graph.sum_edgesAt_length states .leaving
  · exact Graph.sum_edgesAt_length states .entering
  · intro id s
    rw [Graph.state?_eq_some_iff, Graph.ofStates_states]
  · intro o text a read
    obtain ⟨r, ran, rfl⟩ := analyze_eq_ok_iff.mp read
    obtain ⟨written, -, lists⟩ := Reading.run_lists (Reading.start_lists _) ran
    exact ⟨fun s member => lists.outgoing_eq member, lists.edgeCount_eq, lists.sinks_eq, lists.sources_eq⟩

/-- Two states share a number, the first of them lists a transition that leaves another state and one that
leads nowhere. -/
def sharedNumber : List State :=
  [{ State.blank 1 "A" .plain .root with transitions := [⟨1, 2, none⟩, ⟨2, 1, none⟩, ⟨1, 9, none⟩] },
    { State.blank 1 "B" .plain .root with transitions := [⟨1, 1, none⟩] },
    State.blank 2 "C" .plain .root]

theorem graph_shows_edges_sharedNumber :
    (Graph.ofStates sharedNumber).edgeCount = 3 ∧
      (Graph.ofStates sharedNumber).outgoing 1 = [⟨1, 1, none⟩, ⟨1, 2, none⟩] ∧
      (Graph.ofStates sharedNumber).incoming 1 = [⟨1, 1, none⟩, ⟨2, 1, none⟩] ∧
      (Graph.ofStates sharedNumber).outgoing 9 = [] ∧
      ((Graph.ofStates sharedNumber).state? 1).map (·.name) = some "B" ∧
      ∃ a, analyze {} "[*] --> A\nA --> A\nA --> [*]" = .ok a ∧
        (Graph.ofStates a.states).sinks.map (·.id) = [3] ∧
        (Graph.ofStates a.states).sources.map (·.id) = [1] := by
  obtain ⟨count, listed, unknown, -, -, means⟩ := graph_shows_edges.1 sharedNumber
  refine ⟨count, (listed 1).1, (listed 1).2, (unknown 9 (by decide)).1, ?_, ?_⟩
  · rw [(means 1 { State.blank 1 "B" .plain .root with transitions := [⟨1, 1, none⟩] }).mpr
      ⟨_, [State.blank 2 "C" .plain .root], List.singleton_append.symm, rfl, by decide⟩]
    rfl
  · obtain ⟨a, read, final, initial⟩ : ∃ a, analyze {} "[*] --> A\nA --> A\nA --> [*]" = .ok a ∧
        (a.states.filter (·.transitions.isEmpty)).map (·.id) = [3] ∧
        (a.states.filter fun s => (a.states.flatMap (·.transitions)).all (·.target != s.id)).map (·.id) =
          [1] := ⟨_, by cbv, by cbv, by cbv⟩
    obtain ⟨-, -, sinks, sources⟩ := graph_shows_edges.2 {} _ a read
    exact ⟨a, read, by rw [sinks, final], by rw [sources, initial]⟩

end Statechart
