import Mathlib.Algebra.BigOperators.Group.Finset.Basic
import Mathlib.Algebra.Order.BigOperators.Group.Finset
import Mathlib.Algebra.GroupWithZero.Nat
import Statechart.Graph

/-! What drawing edges does to a graph. The nodes stay where they are and keep their states, so
everything that is asked about states can be answered from the list that the graph was made of. An edge
is drawn exactly if both of its ends are there, and it is drawn at the nodes that these ends mean: the
last ones that bear the numbers. So what a number lists on either side is told by the edges alone, the
latest first, whatever else bears the number. -/
namespace Statechart

/-- The two sides of an edge, and of a node. -/
inductive Side where
  /-- Where the edge leaves a node. -/
  | leaving
  /-- Where the edge enters a node. -/
  | entering
deriving DecidableEq, Repr

namespace Side

/-- The end of a transition on this side. -/
def endOf : Side → Transition → StateId
  | leaving, t => t.source
  | entering, t => t.target

/-- The edges of a node on this side. -/
def edges : Side → Node → List Transition
  | leaving, node => node.outgoing
  | entering, node => node.incoming

end Side

/-- The only item that fits is the one that is found. -/
theorem find?_eq_some_of_unique {α : Type} {items : List α} {fits : α → Bool} {item : α}
    (member : item ∈ items) (here : fits item) (unique : ∀ other ∈ items, fits other → other = item) :
    items.find? fits = some item := by
  cases hit : items.find? fits with
  | none => exact absurd here (List.find?_eq_none.mp hit item member)
  | some other => rw [unique other (List.mem_of_find?_eq_some hit) (List.find?_some hit)]

namespace Graph

variable {id : StateId} {change : Node → Node} {nodes changed : List Node} {g : Graph}
  {t : Transition} {ts : List Transition} {s : State} {side : Side}

/-- Both ends of a transition are among some states. -/
def Joins (states : List State) (t : Transition) : Prop :=
  (∃ s ∈ states, s.id = t.source) ∧ ∃ s ∈ states, s.id = t.target

instance (states : List State) (t : Transition) : Decidable (Joins states t) :=
  inferInstanceAs (Decidable (_ ∧ _))

/-- The transitions of some states that are edges between them, in the order in which they are listed. -/
def edges (states : List State) : List Transition :=
  (states.flatMap (·.transitions)).filter fun t => Joins states t

theorem Joins.exists_endOf {states : List State} (joins : Joins states t) (side : Side) :
    ∃ s ∈ states, s.id = side.endOf t := by
  cases side with
  | leaving => exact joins.1
  | entering => exact joins.2

/-- The edges that a number lists on one side. -/
def edgesAt (g : Graph) (side : Side) (id : StateId) : List Transition :=
  ((g.node? id).map side.edges).getD []

theorem outgoing_eq (g : Graph) (id : StateId) : g.outgoing id = g.edgesAt .leaving id := rfl

theorem incoming_eq (g : Graph) (id : StateId) : g.incoming id = g.edgesAt .entering id := rfl

theorem modifyLast?_eq_none_iff :
    modifyLast? id change nodes = none ↔ ∀ node ∈ nodes, node.state.id ≠ id := by
  induction nodes with
  | nil => simp [modifyLast?]
  | cons node later ih =>
    rw [List.forall_mem_cons, ← ih, modifyLast?]
    cases modifyLast? id change later with
    | some rest => simp
    | none => simp

/-- What is changed is the last node with a number. -/
theorem exists_of_modifyLast? (found : modifyLast? id change nodes = some changed) :
    ∃ before node after, nodes = before ++ node :: after ∧ node.state.id = id ∧
      (∀ later ∈ after, later.state.id ≠ id) ∧ changed = before ++ change node :: after := by
  induction nodes generalizing changed with
  | nil => cases found
  | cons first later ih =>
    unfold modifyLast? at found
    cases below : modifyLast? id change later with
    | some rest =>
      rw [below] at found
      cases found
      obtain ⟨before, node, after, rfl, named, last, rfl⟩ := ih below
      exact ⟨first :: before, node, after, rfl, named, last, rfl⟩
    | none =>
      rw [below] at found
      by_cases named : first.state.id = id
      · rw [if_pos named] at found
        cases found
        exact ⟨[], first, later, rfl, named, modifyLast?_eq_none_iff.mp below, rfl⟩
      · rw [if_neg named] at found
        cases found

theorem modifyLast?_states (found : modifyLast? id change nodes = some changed)
    (kept : ∀ node, (change node).state = node.state) :
    changed.map (·.state) = nodes.map (·.state) := by
  obtain ⟨before, node, after, rfl, -, -, rfl⟩ := exists_of_modifyLast? found
  simp [kept]

theorem exists_modifyLast? (change : Node → Node) (there : ∃ s ∈ nodes.map (·.state), s.id = id) :
    ∃ changed, modifyLast? id change nodes = some changed := by
  rw [← Option.ne_none_iff_exists', ne_eq, modifyLast?_eq_none_iff]
  intro absent
  obtain ⟨s, member, named⟩ := there
  obtain ⟨node, held, rfl⟩ := List.mem_map.mp member
  exact absent node held named

/-- The node that a number means is changed, and no other. -/
theorem find?_modifyLast? (found : modifyLast? id change nodes = some changed)
    (kept : ∀ node, (change node).state = node.state) (wanted : StateId) :
    (changed.reverse.find? fun node => node.state.id == wanted) =
      (nodes.reverse.find? fun node => node.state.id == wanted).map
        fun node => if wanted = id then change node else node := by
  obtain ⟨before, node, after, rfl, named, last, rfl⟩ := exists_of_modifyLast? found
  simp only [List.reverse_append, List.reverse_cons, List.find?_append, List.find?_singleton, kept, named]
  by_cases same : wanted = id
  · subst same
    have nothing : (after.reverse.find? fun node => node.state.id == wanted) = none := by
      simpa using last
    simp [nothing]
  · simp [same, Ne.symm same]

theorem node?_eq_none_iff : g.node? id = none ↔ ∀ s ∈ g.states, s.id ≠ id := by
  simp [node?, states]

/-- Drawing an edge changes no state. -/
@[simp] theorem addEdge_states (g : Graph) (t : Transition) : (g.addEdge t).states = g.states := by
  unfold addEdge
  dsimp only
  split
  · rename_i nodes drawn
    obtain ⟨between, left, entered⟩ := Option.bind_eq_some_iff.mp drawn
    exact (modifyLast?_states entered fun _ => rfl).trans (modifyLast?_states left fun _ => rfl)
  · rfl

/-- A node with one more edge on those of its sides where the edge ends. -/
def drawn (id : StateId) (t : Transition) (node : Node) : Node :=
  { node with
    outgoing := if id = t.source then t :: node.outgoing else node.outgoing
    incoming := if id = t.target then t :: node.incoming else node.incoming }

/-- An edge between nodes of the graph is drawn, once, at the nodes that its ends mean. -/
theorem addEdge_of_joins (joins : Joins g.states t) :
    (g.addEdge t).edgeCount = g.edgeCount + 1 ∧
      ∀ id, (g.addEdge t).node? id = (g.node? id).map (drawn id t) := by
  obtain ⟨source, target⟩ := joins
  obtain ⟨between, left⟩ :=
    exists_modifyLast? (fun node => { node with outgoing := t :: node.outgoing }) source
  have same : between.map (·.state) = g.states := modifyLast?_states left fun _ => rfl
  rw [← same] at target
  obtain ⟨nodes, entered⟩ :=
    exists_modifyLast? (fun node => { node with incoming := t :: node.incoming }) target
  simp only [addEdge, left, Option.bind_some, entered, true_and]
  intro id
  simp only [node?]
  rw [find?_modifyLast? entered (fun _ => rfl), find?_modifyLast? left (fun _ => rfl), Option.map_map]
  refine congrArg (Option.map · _) (funext fun node => ?_)
  simp only [Function.comp, drawn]
  split <;> split <;> rfl

/-- A transition that lacks an end is no edge. -/
theorem addEdge_of_not_joins (apart : ¬ Joins g.states t) : g.addEdge t = g := by
  unfold addEdge
  dsimp only
  split
  · rename_i nodes both
    obtain ⟨between, left, entered⟩ := Option.bind_eq_some_iff.mp both
    refine absurd ⟨?_, ?_⟩ apart
    · obtain ⟨before, node, after, shape, named, -⟩ := exists_of_modifyLast? left
      exact ⟨node.state, by simp [states, shape], named⟩
    · obtain ⟨before, node, after, shape, named, -⟩ := exists_of_modifyLast? entered
      have same : between.map (·.state) = g.states := modifyLast?_states left fun _ => rfl
      exact ⟨node.state, by simp [← same, shape], named⟩
  · rfl

theorem drawn_edges (side : Side) (id : StateId) (t : Transition) (node : Node) :
    side.edges (drawn id t node) = if side.endOf t = id then t :: side.edges node else side.edges node := by
  cases side <;> simp [Side.edges, Side.endOf, drawn, eq_comm]

/-- A number lists one more edge if the edge ends there. -/
theorem addEdge_edgesAt (g : Graph) (t : Transition) (side : Side) (id : StateId) :
    (g.addEdge t).edgesAt side id =
      if Joins g.states t ∧ side.endOf t = id then t :: g.edgesAt side id else g.edgesAt side id := by
  by_cases joins : Joins g.states t
  · unfold edgesAt
    rw [(addEdge_of_joins joins).2, Option.map_map]
    cases there : g.node? id with
    | none =>
      obtain ⟨s, member, named⟩ := joins.exists_endOf side
      have elsewhere : side.endOf t ≠ id := fun same => node?_eq_none_iff.mp there s member (named.trans same)
      simp [elsewhere]
    | some node =>
      simp [joins, drawn_edges]
  · simp [addEdge_of_not_joins joins, joins]

theorem addEdge_edgeCount (g : Graph) (t : Transition) :
    (g.addEdge t).edgeCount = if Joins g.states t then g.edgeCount + 1 else g.edgeCount := by
  by_cases joins : Joins g.states t
  · rw [if_pos joins, (addEdge_of_joins joins).1]
  · rw [if_neg joins, addEdge_of_not_joins joins]

theorem foldl_addEdge_states (g : Graph) (ts : List Transition) :
    (ts.foldl addEdge g).states = g.states := by
  induction ts generalizing g with
  | nil => rfl
  | cons t later ih => rw [List.foldl_cons, ih, addEdge_states]

/-- Of many transitions, those with both ends are drawn. -/
theorem foldl_addEdge_edgeCount (g : Graph) (ts : List Transition) :
    (ts.foldl addEdge g).edgeCount =
      g.edgeCount + (ts.filter fun t => Joins g.states t).length := by
  induction ts generalizing g with
  | nil => rfl
  | cons t later ih =>
    rw [List.foldl_cons, ih, addEdge_edgeCount, addEdge_states, List.filter_cons]
    by_cases joins : Joins g.states t
    · simp only [joins, if_true, decide_true, List.length_cons]
      omega
    · simp only [joins, if_false, decide_false]
      rfl

/-- The edges that are drawn last come first. -/
theorem foldl_addEdge_edgesAt (g : Graph) (ts : List Transition) (side : Side) (id : StateId) :
    (ts.foldl addEdge g).edgesAt side id =
      ((ts.filter fun t => Joins g.states t).filter (side.endOf · == id)).reverse ++
        g.edgesAt side id := by
  induction ts generalizing g with
  | nil => rfl
  | cons t later ih =>
    rw [List.foldl_cons, ih, addEdge_edgesAt, addEdge_states, List.filter_cons]
    by_cases joins : Joins g.states t
    · by_cases here : side.endOf t = id
      · simp [joins, here]
      · simp [joins, here]
    · simp [joins]

/-- A graph shows the states that it was made of. -/
@[simp] theorem ofStates_states (states : List State) : (ofStates states).states = states := by
  unfold ofStates
  rw [foldl_addEdge_states]
  simp [Graph.states, Function.comp_def]

/-- A graph has an edge for every transition of its states between two of them. -/
theorem ofStates_edgeCount (states : List State) :
    (ofStates states).edgeCount = (edges states).length := by
  unfold ofStates edges
  dsimp only
  rw [foldl_addEdge_edgeCount, Nat.zero_add]
  simp [Graph.states, Function.comp_def]

/-- On each side, a number lists the edges that end there, the latest first. -/
theorem ofStates_edgesAt (states : List State) (side : Side) (id : StateId) :
    (ofStates states).edgesAt side id = ((edges states).filter (side.endOf · == id)).reverse := by
  have bare : ∀ nodes : List Node, (∀ node ∈ nodes, side.edges node = []) →
      edgesAt { nodes, edgeCount := 0 } side id = [] := by
    intro nodes hollow
    unfold edgesAt
    cases there : node? { nodes, edgeCount := 0 } id with
    | none => rfl
    | some node => exact hollow node (by simpa using List.mem_of_find?_eq_some there)
  unfold ofStates edges
  dsimp only
  rw [foldl_addEdge_edgesAt, bare, List.append_nil]
  · simp [Graph.states, Function.comp_def]
  · intro node member
    obtain ⟨state, -, rfl⟩ := List.mem_map.mp member
    cases side <;> rfl

theorem edges_eq_self {states : List State}
    (inside : ∀ t ∈ states.flatMap (·.transitions), Joins states t) :
    edges states = states.flatMap (·.transitions) :=
  List.filter_eq_self.mpr fun t member => decide_eq_true (inside t member)

/-- A number that no state bears lists nothing. -/
theorem ofStates_edgesAt_of_unknown {states : List State} (unknown : ∀ s ∈ states, s.id ≠ id)
    (side : Side) : (ofStates states).edgesAt side id = [] := by
  have absent : (ofStates states).node? id = none := by
    rw [node?_eq_none_iff, ofStates_states]
    exact unknown
  simp [edgesAt, absent]

/-- Each item is counted once if the items are sorted by keys that are all different. -/
theorem sum_length_filter_eq {keys : List StateId} (key : Transition → StateId) (distinct : keys.Nodup)
    (covered : ∀ t ∈ ts, key t ∈ keys) :
    (keys.map fun id => (ts.filter (key · == id)).length).sum = ts.length := by
  have inside : ∀ id ∈ (↑(ts.map key) : Multiset StateId), id ∈ keys.toFinset := by
    intro id member
    obtain ⟨t, there, rfl⟩ := List.mem_map.mp (Multiset.mem_coe.mp member)
    exact List.mem_toFinset.mpr (covered t there)
  have share (id : StateId) : (ts.filter (key · == id)).length = (ts.map key).count id := by
    rw [← List.countP_eq_length_filter, List.count, List.countP_map]
    rfl
  calc (keys.map fun id => (ts.filter (key · == id)).length).sum
      = ∑ id ∈ keys.toFinset, (↑(ts.map key) : Multiset StateId).count id := by
        rw [List.sum_toFinset _ distinct]
        simp only [Multiset.coe_count, share]
    _ = ts.length := by
        rw [Multiset.sum_count_eq_card inside, Multiset.coe_card, List.length_map]

/-- On each side, every edge is listed once, at one number. -/
theorem sum_edgesAt_length (states : List State) (side : Side) :
    ((states.map (·.id)).dedup.map fun id => ((ofStates states).edgesAt side id).length).sum =
      (edges states).length := by
  have covered : ∀ t ∈ edges states, side.endOf t ∈ (states.map (·.id)).dedup := by
    intro t member
    have joins : Joins states t := of_decide_eq_true (List.mem_filter.mp member).2
    obtain ⟨s, there, named⟩ := joins.exists_endOf side
    exact List.mem_dedup.mpr (List.mem_map.mpr ⟨s, there, named⟩)
  simp only [ofStates_edgesAt, List.length_reverse]
  exact sum_length_filter_eq side.endOf (List.nodup_dedup _) covered

theorem nodes_length (g : Graph) : g.nodes.length = g.states.length := by
  simp [states]

/-- A number means the last state that bears it. -/
theorem state?_eq_find? (g : Graph) (id : StateId) :
    g.state? id = g.states.reverse.find? fun s => s.id == id := by
  unfold state? node? states
  rw [← List.map_reverse, List.find?_map]
  rfl

theorem state?_eq_some_iff : g.state? id = some s ↔
    ∃ before after, g.states = before ++ s :: after ∧ s.id = id ∧ ∀ later ∈ after, later.id ≠ id := by
  rw [state?_eq_find?, List.find?_eq_some_iff_append]
  constructor
  · rintro ⟨named, later, earlier, shape, others⟩
    refine ⟨earlier.reverse, later.reverse, ?_, by simpa using named, by simpa using others⟩
    rw [← List.reverse_reverse g.states, shape]
    simp
  · rintro ⟨before, after, shape, named, last⟩
    exact ⟨by simpa using named, after.reverse, before.reverse, by simp [shape], by simpa using last⟩

/-- Where no two states share a number, a number means the state that bears it. -/
theorem state?_eq_some {s : State} (distinct : ∀ other ∈ g.states, other.id = s.id → other = s)
    (member : s ∈ g.states) : g.state? s.id = some s := by
  rw [state?_eq_find?]
  apply find?_eq_some_of_unique
  · simpa using member
  · simp
  · simpa using distinct

/-- Where no two states share a number, the number of a node means that node. -/
theorem node?_of_mem {node : Node} (distinct : (g.states.map (·.id)).Nodup) (member : node ∈ g.nodes) :
    g.node? node.state.id = some node := by
  rw [states, List.map_map] at distinct
  apply find?_eq_some_of_unique
  · simpa using member
  · simp
  · intro other there same
    exact List.inj_on_of_nodup_map distinct (List.mem_reverse.mp there) member (by simpa using same)

/-- Then the states without edges on one side are those whose numbers list nothing there. -/
theorem bare_states_eq (distinct : (g.states.map (·.id)).Nodup) (side : Side) :
    (g.nodes.filter fun node => (side.edges node).isEmpty).map (·.state) =
      g.states.filter fun s => (g.edgesAt side s.id).isEmpty := by
  have listed : ∀ node ∈ g.nodes, (side.edges node).isEmpty = (g.edgesAt side node.state.id).isEmpty := by
    intro node member
    simp [edgesAt, node?_of_mem distinct member]
  rw [List.filter_congr listed, states, List.filter_map]
  rfl

/-- A state of the diagram itself is in no composite state. -/
theorem climb?_of_root {s : State} (owned : s.owner = .root) (g : Graph) (steps : Nat) :
    g.climb? steps s = some 0 := by
  unfold climb?
  cases steps <;> simp [owned]

/-- A state is in one composite state more than its owner. -/
theorem climb?_of_state {s : State} (owned : s.owner = .state id) (g : Graph) (steps : Nat) :
    g.climb? (steps + 1) s = ((g.state? id).bind (g.climb? steps)).map (· + 1) := by
  conv => lhs; unfold climb?
  simp [owned]

end Graph

end Statechart
