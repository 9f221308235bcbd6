import Mathlib
import Statechart.Proofs.GraphView

/-! Edges that lead round in a circle. Dropping the numbers without a successor, again and again, leaves
the largest set of numbers in which each has a successor. Nothing on a circle is ever dropped, and since
there are finitely many numbers, a successor for each of them means that some number leads back to
itself. So what is left tells whether there is a circle, whatever the states are: two edges may have the
same ends, an edge may end where it starts, and numbers may be shared. -/
namespace Statechart

namespace Graph

variable {states : List State} {g : Graph} {id a b : StateId} {ids : List StateId} {t : Transition}
  {node : Node} {side : Side} {changed nodes : List Node} {change : Node → Node}

/-- An edge leads from the one number to the other. -/
def Leads (states : List State) (a b : StateId) : Prop :=
  ∃ t ∈ edges states, t.source = a ∧ t.target = b

/-- Edges that lead round: each of them starts where the one before it ends, and the first of them
starts where the last one ends. -/
structure IsRound (ts : List Transition) : Prop where
  /-- There is at least one. -/
  nonempty : ts ≠ []
  /-- Each one continues the one before it. -/
  connected : ts.IsChain fun t u => t.target = u.source
  /-- The last one returns to the start. -/
  closed : ts.getLast?.map (·.target) = ts.head?.map (·.source)

/-- An edge of the graph starts at the node in the one place and ends at the node in the other. -/
def Arc (g : Graph) (i j : Nat) : Prop :=
  ∃ start finish, g.nodes[i]? = some start ∧ g.nodes[j]? = some finish ∧
    ∃ t ∈ start.outgoing, t ∈ finish.incoming

theorem mem_edgesAt_iff :
    t ∈ (ofStates states).edgesAt side id ↔ t ∈ edges states ∧ side.endOf t = id := by
  rw [ofStates_edgesAt, List.mem_reverse, List.mem_filter, beq_iff_eq]

theorem Leads.mem_ids (leads : Leads states a b) : a ∈ states.map (·.id) := by
  obtain ⟨t, edge, rfl, rfl⟩ := leads
  have joins : Joins states t := of_decide_eq_true (List.mem_filter.mp edge).2
  exact List.mem_map.mpr joins.1

/-- The numbers that one round of pruning leaves are those with a successor among the numbers. -/
theorem mem_prune_iff :
    id ∈ (ofStates states).prune ids ↔ id ∈ ids ∧ ∃ next ∈ ids, Leads states id next := by
  unfold prune
  rw [List.mem_filter, List.any_eq_true, outgoing_eq]
  refine and_congr_right fun _ => ⟨?_, ?_⟩
  · rintro ⟨t, leaving, inside⟩
    obtain ⟨edge, source⟩ := mem_edgesAt_iff.mp leaving
    exact ⟨t.target, by simpa using inside, t, edge, source, rfl⟩
  · rintro ⟨next, inside, t, edge, source, rfl⟩
    exact ⟨t, mem_edgesAt_iff.mpr ⟨edge, source⟩, by simpa using inside⟩

/-- What is left has a successor that is left. -/
theorem exists_leads_of_mem_withSuccessors (left : id ∈ (ofStates states).withSuccessors ids) :
    ∃ next ∈ (ofStates states).withSuccessors ids, Leads states id next := by
  fun_induction withSuccessors (ofStates states) ids with
  | case1 ids shorter ih => exact ih left
  | case2 ids full =>
    have stable : (ofStates states).prune ids = ids := by
      apply List.Sublist.eq_of_length_le List.filter_sublist
      exact Nat.le_of_not_lt full
    rw [← stable] at left
    exact (mem_prune_iff.mp left).2

/-- Numbers with successors of the same kind are all left. -/
theorem mem_withSuccessors {Kept : StateId → Prop}
    (closed : ∀ id, Kept id → ∃ next, Kept next ∧ Leads states id next)
    (inside : ∀ id, Kept id → id ∈ ids) (kept : Kept id) :
    id ∈ (ofStates states).withSuccessors ids := by
  fun_induction withSuccessors (ofStates states) ids with
  | case1 ids shorter ih =>
    apply ih
    intro other keptOther
    obtain ⟨next, keptNext, leads⟩ := closed other keptOther
    exact mem_prune_iff.mpr ⟨inside other keptOther, next, inside next keptNext, leads⟩
  | case2 ids full => exact inside id kept

/-- Finitely many numbers, each with a successor among them, lead back to one of them. -/
theorem exists_transGen_self (member : id ∈ ids)
    (closed : ∀ id ∈ ids, ∃ next ∈ ids, Leads states id next) :
    ∃ a, Relation.TransGen (Leads states) a a := by
  by_contra! acyclic
  let After (x y : {id // id ∈ ids}) : Prop := Relation.TransGen (Leads states) y x
  have irreflexive : Std.Irrefl After := ⟨fun x => acyclic x⟩
  have transitive : IsTrans _ After := ⟨fun x y z later latest => latest.trans later⟩
  have wellFounded : WellFounded After := Finite.wellFounded_of_trans_of_irrefl After
  -- The number that nothing comes after has a successor all the same.
  obtain ⟨last, -, nothing⟩ := wellFounded.has_min Set.univ ⟨⟨id, member⟩, trivial⟩
  obtain ⟨next, inside, leads⟩ := closed last.1 last.2
  exact nothing ⟨next, inside⟩ trivial (.single leads)

/-- Pruning leaves something exactly if some number leads back to itself. -/
theorem hasCycles_iff_transGen :
    (ofStates states).hasCycles = true ↔ ∃ a, Relation.TransGen (Leads states) a a := by
  unfold hasCycles
  rw [Bool.not_eq_true', List.isEmpty_eq_false_iff_exists_mem, ofStates_states]
  constructor
  · rintro ⟨id, left⟩
    exact exists_transGen_self left fun _ => exists_leads_of_mem_withSuccessors
  · rintro ⟨a, round⟩
    have closed : ∀ id, Relation.TransGen (Leads states) id a →
        ∃ next, Relation.TransGen (Leads states) next a ∧ Leads states id next := by
      intro id toStart
      obtain ⟨next, leads, onward⟩ := Relation.TransGen.head'_iff.mp toStart
      rcases Relation.reflTransGen_iff_eq_or_transGen.mp onward with rfl | further
      · exact ⟨_, round, leads⟩
      · exact ⟨next, further, leads⟩
    have inside : ∀ id, Relation.TransGen (Leads states) id a → id ∈ states.map State.id := by
      intro id toStart
      obtain ⟨next, leads, -⟩ := Relation.TransGen.head'_iff.mp toStart
      exact leads.mem_ids
    exact ⟨a, mem_withSuccessors closed inside round⟩

/-- A number leads to another one along connected edges, of which there is at least one. -/
theorem transGen_iff_exists_edges :
    Relation.TransGen (Leads states) a b ↔ ∃ ts : List Transition, (∀ t ∈ ts, t ∈ edges states) ∧
      (ts.IsChain fun t u => t.target = u.source) ∧ ts.head?.map (·.source) = some a ∧
      ts.getLast?.map (·.target) = some b := by
  constructor
  · intro path
    induction path using Relation.TransGen.head_induction_on with
    | single leads =>
      obtain ⟨t, edge, rfl, rfl⟩ := leads
      exact ⟨[t], by simpa using edge, .singleton t, rfl, rfl⟩
    | head leads _ ih =>
      obtain ⟨t, edge, rfl, rfl⟩ := leads
      obtain ⟨ts, edges, connected, starts, ends⟩ := ih
      obtain ⟨u, later, rfl⟩ : ∃ u later, ts = u :: later := by
        cases ts with
        | nil => simp at starts
        | cons u later => exact ⟨u, later, rfl⟩
      have joined : u.source = t.target := by simpa using starts
      refine ⟨t :: u :: later, ?_, .cons_cons joined.symm connected, rfl, by simpa using ends⟩
      exact List.forall_mem_cons.mpr ⟨edge, edges⟩
  · rintro ⟨ts, edges, connected, starts, ends⟩
    induction ts generalizing a with
    | nil => simp at starts
    | cons t later ih =>
      have edge := edges t List.mem_cons_self
      obtain rfl : t.source = a := by simpa using starts
      cases later with
      | nil =>
        obtain rfl : t.target = b := by simpa using ends
        exact .single ⟨t, edge, rfl, rfl⟩
      | cons u rest =>
        have joined : t.target = u.source := (List.isChain_cons_cons.mp connected).1
        refine .head ⟨t, edge, rfl, joined⟩ (ih ?_ connected.tail rfl (by simpa using ends))
        exact fun other member => edges other (List.mem_cons_of_mem t member)

/-- Some number leads back to itself exactly if some edges lead round. -/
theorem exists_round_iff :
    (∃ ts, IsRound ts ∧ ∀ t ∈ ts, t ∈ edges states) ↔
      ∃ a, Relation.TransGen (Leads states) a a := by
  simp only [transGen_iff_exists_edges]
  constructor
  · rintro ⟨ts, ⟨nonempty, connected, closed⟩, inside⟩
    obtain ⟨t, later, rfl⟩ := List.exists_cons_of_ne_nil nonempty
    exact ⟨t.source, t :: later, inside, connected, rfl, closed⟩
  · rintro ⟨a, ts, inside, connected, starts, ends⟩
    refine ⟨ts, ⟨?_, connected, ends.trans starts.symm⟩, inside⟩
    rintro rfl
    simp at starts

/-- Nodes list only edges of some sort, and each on the side where it ends at the node's number. -/
def Attached (Drawn : Transition → Prop) (nodes : List Node) : Prop :=
  ∀ node ∈ nodes, ∀ side : Side, ∀ t ∈ side.edges node, Drawn t ∧ side.endOf t = node.state.id

theorem Attached.modifyLast? {Drawn : Transition → Prop} (attached : Attached Drawn nodes)
    (found : modifyLast? id change nodes = some changed)
    (kept : ∀ node, (change node).state = node.state)
    (added : ∀ (node : Node) (side : Side), ∀ t ∈ side.edges (change node),
      t ∈ side.edges node ∨ Drawn t ∧ side.endOf t = id) : Attached Drawn changed := by
  obtain ⟨before, named, after, rfl, rfl, -, rfl⟩ := exists_of_modifyLast? found
  intro node member side t listed
  rcases List.mem_append.mp member with old | rest
  · exact attached node (List.mem_append_left _ old) side t listed
  · rcases List.mem_cons.mp rest with rfl | old
    · rw [kept]
      rcases added named side t listed with already | fresh
      · exact attached named (by simp) side t already
      · exact fresh
    · exact attached node (by simp [old]) side t listed

/-- An edge is drawn at nodes with the numbers of its ends. -/
theorem Attached.addEdge {Drawn : Transition → Prop} (attached : Attached Drawn g.nodes)
    (drawn : Joins g.states t → Drawn t) : Attached Drawn (g.addEdge t).nodes := by
  by_cases joins : Joins g.states t
  · unfold Graph.addEdge
    dsimp only
    split
    · rename_i nodes both
      obtain ⟨between, left, entered⟩ := Option.bind_eq_some_iff.mp both
      refine (attached.modifyLast? left (fun _ => rfl) ?_).modifyLast? entered (fun _ => rfl) ?_
      · intro node side u listed
        cases side with
        | entering => exact .inl listed
        | leaving =>
          rcases List.mem_cons.mp listed with rfl | already
          · exact .inr ⟨drawn joins, rfl⟩
          · exact .inl already
      · intro node side u listed
        cases side with
        | leaving => exact .inl listed
        | entering =>
          rcases List.mem_cons.mp listed with rfl | already
          · exact .inr ⟨drawn joins, rfl⟩
          · exact .inl already
    · exact attached
  · rw [addEdge_of_not_joins joins]
    exact attached

theorem attached_foldl {Drawn : Transition → Prop} (ts : List Transition)
    (attached : Attached Drawn g.nodes) (drawn : ∀ t ∈ ts, Joins g.states t → Drawn t) :
    Attached Drawn (ts.foldl addEdge g).nodes := by
  induction ts generalizing g with
  | nil => exact attached
  | cons t later ih =>
    refine ih (attached.addEdge (drawn t List.mem_cons_self)) ?_
    intro u member
    rw [addEdge_states]
    exact drawn u (List.mem_cons_of_mem t member)

/-- The nodes of a graph list its edges, each at nodes with the numbers of its ends. -/
theorem attached_ofStates (states : List State) :
    Attached (· ∈ edges states) (ofStates states).nodes := by
  apply attached_foldl
  · intro node member side t listed
    obtain ⟨s, -, rfl⟩ := List.mem_map.mp member
    cases side <;> cases listed
  · intro t member joins
    refine List.mem_filter.mpr ⟨member, decide_eq_true ?_⟩
    simpa [Graph.states, Function.comp_def] using joins

/-- The node that a number means is in some place; a number that means none has the place after the
last node. -/
theorem exists_place (g : Graph) (id : StateId) : ∃ i : Nat, g.nodes[i]? = g.node? id := by
  cases there : g.node? id with
  | none => exact ⟨g.nodes.length, List.getElem?_eq_none (Nat.le_refl _)⟩
  | some node =>
    have member := List.mem_reverse.mp (List.mem_of_find?_eq_some there)
    exact List.mem_iff_getElem?.mp member

/-- Some node leads back to itself exactly if some number does. -/
theorem exists_arc_iff :
    (∃ i, Relation.TransGen (ofStates states).Arc i i) ↔ ∃ a, Relation.TransGen (Leads states) a a := by
  constructor
  · rintro ⟨i, round⟩
    refine ⟨_, round.lift (fun i => (((ofStates states).nodes[i]?).map (·.state.id)).getD 0) ?_⟩
    rintro j k ⟨start, finish, startHere, finishHere, t, leaving, entering⟩
    obtain ⟨edge, source⟩ :=
      attached_ofStates states start (List.mem_of_getElem? startHere) .leaving t leaving
    obtain ⟨-, target⟩ :=
      attached_ofStates states finish (List.mem_of_getElem? finishHere) .entering t entering
    simp only [Function.onFun, startHere, finishHere]
    exact ⟨t, edge, source, target⟩
  · rintro ⟨a, round⟩
    choose place here using (ofStates states).exists_place
    refine ⟨place a, round.lift place ?_⟩
    rintro b c ⟨t, edge, rfl, rfl⟩
    have listed (side : Side) : ∃ node, (ofStates states).node? (side.endOf t) = some node ∧
        t ∈ side.edges node := by
      have inside : t ∈ (ofStates states).edgesAt side (side.endOf t) := mem_edgesAt_iff.mpr ⟨edge, rfl⟩
      unfold edgesAt at inside
      cases there : (ofStates states).node? (side.endOf t) with
      | none => simp [there] at inside
      | some node => exact ⟨node, rfl, by simpa [there] using inside⟩
    obtain ⟨start, startThere, leaving⟩ := listed .leaving
    obtain ⟨finish, finishThere, entering⟩ := listed .entering
    exact ⟨start, finish, (here _).trans startThere, (here _).trans finishThere, t, leaving, entering⟩

theorem mem_edges_iff :
    t ∈ edges states ↔ (∃ s ∈ states, t ∈ s.transitions) ∧ Joins states t := by
  simp [edges]

end Graph

/-- A graph has cycles exactly if some node of it leads back to itself, and that is so exactly if some
transitions that its states list, each between two states of the list, lead round. A transition from a
state to itself is enough. -/
theorem hasCycles_iff_round :
    (∀ states : List State,
      ((Graph.ofStates states).hasCycles = true ↔
        ∃ ts, Graph.IsRound ts ∧
          ∀ t ∈ ts, (∃ s ∈ states, t ∈ s.transitions) ∧ Graph.Joins states t) ∧
      ((Graph.ofStates states).hasCycles = true ↔
        ∃ i, Relation.TransGen (Graph.ofStates states).Arc i i)) ∧
    ∀ t : Transition, Graph.IsRound [t] ↔ t.isLoop = true := by
  refine ⟨fun states => ⟨?_, ?_⟩, fun t => ⟨?_, ?_⟩⟩
  · simp only [Graph.hasCycles_iff_transGen, ← Graph.exists_round_iff, Graph.mem_edges_iff]
  · rw [Graph.hasCycles_iff_transGen, Graph.exists_arc_iff]
  · intro round
    exact beq_iff_eq.mpr (Option.some.inj round.closed).symm
  · intro loop
    exact ⟨List.cons_ne_nil t [], .singleton t, congrArg some (beq_iff_eq.mp loop).symm⟩

/-- A circle of two transitions that only closes because the first and the last state share a number.
Both transitions are listed under the first state, whose node no edge touches. -/
def sharedRound : List State :=
  [{ State.blank 1 "A" .plain .root with transitions := [⟨2, 1, none⟩, ⟨1, 9, none⟩, ⟨1, 2, none⟩] },
    State.blank 2 "B" .plain .root, State.blank 1 "C" .plain .root]

theorem hasCycles_iff_round_sharedRound :
    (Graph.ofStates sharedRound).hasCycles = true ∧
      (∃ i, Relation.TransGen (Graph.ofStates sharedRound).Arc i i) ∧
      Graph.IsRound [⟨3, 3, none⟩] := by
  obtain ⟨byEdges, byNodes⟩ := hasCycles_iff_round.1 sharedRound
  have round : Graph.IsRound [⟨1, 2, none⟩, ⟨2, 1, none⟩] :=
    ⟨by decide, .cons_cons rfl (.singleton _), rfl⟩
  have cycles := byEdges.mpr ⟨_, round, by decide⟩
  exact ⟨cycles, byNodes.mp cycles, (hasCycles_iff_round.2 ⟨3, 3, none⟩).mpr rfl⟩

end Statechart
