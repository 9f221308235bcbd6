import Mathlib
import Statechart.Proofs.GraphView
import Statechart.Proofs.Moves
import Statechart.Report.Listing

/-! No transition is lost and none is made up. Every line that is a transition writes one, from the
state that its source refers to, and the states list between them exactly what was written, each its
own part in the order of the lines. Everything that could drop a transition or miss one of its ends
is there for lists of states that do not come from a diagram. -/
namespace Statechart

namespace Reading

variable {o : Options} {origin r next both : Reading} {lines : List (Line × Nat)}
  {entry : Line × Nat} {line : Line} {number : Nat} {t : Transition} {written : List Transition}

/-- What the reading of some lines has come to when one of them is about to be read. -/
def ReachedAt (o : Options) (origin : Reading) (lines : List (Line × Nat)) (entry : Line × Nat)
    (r : Reading) : Prop :=
  ∃ earlier later, lines = earlier ++ entry :: later ∧ run o origin earlier = .ok r

theorem ReachedAt.mem (reached : ReachedAt o origin lines entry r) : entry ∈ lines := by
  obtain ⟨earlier, later, rfl, -⟩ := reached
  exact List.mem_append_right earlier List.mem_cons_self

theorem ReachedAt.append (reached : ReachedAt o origin lines entry r) (added : List (Line × Nat)) :
    ReachedAt o origin (lines ++ added) entry r := by
  obtain ⟨earlier, later, rfl, ran⟩ := reached
  exact ⟨earlier, later ++ added, by simp, ran⟩

/-- Every line of a diagram that is read to its end is reached and read. -/
theorem reachedAt_of_split {earlier later : List (Line × Nat)}
    (split : lines = earlier ++ entry :: later) (ran : run o origin lines = .ok next) :
    ∃ before after, run o origin earlier = .ok before ∧ ReachedAt o origin lines entry before ∧
      before.step o entry.2 entry.1 = .ok after := by
  have whole := ran
  rw [split, run_append] at whole
  obtain ⟨before, ranEarlier, rest⟩ := bind_eq_ok_iff.mp whole
  obtain ⟨line, number⟩ := entry
  rw [run_cons] at rest
  obtain ⟨after, stepped, -⟩ := bind_eq_ok_iff.mp rest
  exact ⟨before, after, ranEarlier, ⟨earlier, later, split, ranEarlier⟩, stepped⟩

/-- One of the lines writes this transition. -/
def WrittenAt (o : Options) (origin : Reading) (lines : List (Line × Nat)) (entry : Line × Nat)
    (t : Transition) : Prop :=
  ∃ before both, ReachedAt o origin lines entry before ∧ before.Writes o entry.1 entry.2 t both

/-- The states list what was written, and nothing else. -/
structure Lists (r : Reading) (written : List Transition) : Prop where
  numbered : r.draft.registry.Numbered
  /-- What was written is between states that exist. -/
  known : ∀ t ∈ written, r.draft.registry.Known t.source ∧ r.draft.registry.Known t.target
  /-- Each state lists what leaves it, in the order of writing. -/
  listed : ∀ s ∈ r.draft.registry.states, s.transitions = written.filter (·.source == s.id)

theorem start_lists (startingId : StateId) : (start startingId).Lists [] where
  numbered := Registry.numbered_empty startingId
  known _ member := nomatch member
  listed _ member := nomatch member

/-- A new state has no transitions, and none can have been written for a number that was not handed
out. -/
theorem Lists.push (lists : r.Lists written) (name : String) (kind : Kind) (owner : Scope) :
    (r.push name kind owner).Lists written where
  numbered := lists.numbered.push name kind owner
  known t member := by
    obtain ⟨source, target⟩ := lists.known t member
    exact ⟨source.push .., target.push ..⟩
  listed s member := by
    rcases List.mem_append.mp member with old | fresh
    · exact lists.listed s old
    · obtain rfl := List.mem_singleton.mp fresh
      symm
      rw [State.blank, List.filter_eq_nil_iff]
      intro t member
      have bound := (lists.numbered.known_iff.mp (lists.known t member).1).2
      simp only [beq_iff_eq]
      lia

theorem Lists.annotate (lists : r.Lists written) (id : StateId) (text : String) :
    (r.annotate o id text).Lists written where
  numbered := lists.numbered.modify id fun _ => rfl
  known t member := by
    obtain ⟨source, target⟩ := lists.known t member
    exact ⟨source.modify id fun _ => rfl, target.modify id fun _ => rfl⟩
  listed s member := by
    obtain ⟨before, there, rfl | rfl⟩ := Registry.exists_of_mem_modify member
    · exact lists.listed _ there
    · exact lists.listed before there

/-- A transition is listed by the state that it leaves and by no other. -/
theorem Lists.addTransition (lists : r.Lists written) (source : r.draft.registry.Known t.source)
    (target : r.draft.registry.Known t.target) : (r.addTransition t).Lists (written ++ [t]) := by
  rw [addTransition_eq]
  exact {
    numbered := lists.numbered.modify t.source fun _ => rfl
    known := fun other member => by
      have before : r.draft.registry.Known other.source ∧ r.draft.registry.Known other.target := by
        rcases List.mem_append.mp member with old | fresh
        · exact lists.known other old
        · obtain rfl := List.mem_singleton.mp fresh
          exact ⟨source, target⟩
      exact ⟨before.1.modify t.source fun _ => rfl, before.2.modify t.source fun _ => rfl⟩
    listed := fun s member => by
      simp only [modify, lists.numbered.modify_states] at member
      obtain ⟨before, there, rfl⟩ := List.mem_map.mp member
      have listed := lists.listed before there
      by_cases leaves : before.id = t.source
      · rw [if_pos leaves]
        simp [State.addTransition, listed, leaves]
      · rw [if_neg leaves]
        simp [listed, Ne.symm leaves] }

/-- Every move keeps the lists true. -/
theorem Move.lists {listed : Option Transition} (move : Move o listed r next)
    (lists : r.Lists written) : next.Lists (written ++ listed.toList) := by
  cases move with
  | connect source target => exact lists.addTransition source target
  | create => simpa using lists.push _ _ _
  | annotate => simpa using lists.annotate _ _
  | bind | report | enter | leave => simpa using ⟨lists.numbered, lists.known, lists.listed⟩

theorem SilentMoves.lists (silent : SilentMoves o r next) (lists : r.Lists written) :
    next.Lists written := by
  induction silent with
  | refl => exact lists
  | tail _ move ih => simpa using move.lists ih

/-- Once its names are obtained, a transition can always be listed. -/
theorem Writes.addTransition?_eq_some (writes : r.Writes o line number t both)
    (lists : r.Lists written) : ∃ registry, both.draft.registry.addTransition? t = some registry := by
  obtain ⟨silent, ⟨s, member, named⟩, -⟩ := writes.silentMoves
  have held := (silent.lists lists).numbered.get?_eq_some_iff.mpr ⟨member, named⟩
  unfold Registry.addTransition?
  rw [held]
  exact ⟨_, rfl⟩

/-- What a line writes goes into what the reading comes to. -/
theorem ReachedAt.moves {before : Reading} (reached : ReachedAt o origin lines entry before)
    (writes : before.Writes o entry.1 entry.2 t both) (ran : run o origin lines = .ok next) :
    Moves o (both.addTransition t) next := by
  obtain ⟨earlier, later, rfl, ranEarlier⟩ := reached
  rw [run_split ranEarlier writes.step_eq] at ran
  exact run_moves ran

theorem WrittenAt.append (writtenAt : WrittenAt o origin lines entry t) (added : List (Line × Nat)) :
    WrittenAt o origin (lines ++ added) entry t := by
  obtain ⟨before, both, reached, writes⟩ := writtenAt
  exact ⟨before, both, reached.append added, writes⟩

/-- Line by line, the transitions of a diagram are written, and in the end they are what the states
list. -/
theorem run_lists (lists : origin.Lists []) (ran : run o origin lines = .ok next) :
    ∃ written, List.Forall₂ (WrittenAt o origin lines) (lines.filter (·.1.isTransition)) written ∧
      next.Lists written := by
  induction lines using List.reverseRecOn generalizing next with
  | nil =>
    cases ran
    exact ⟨[], .nil, lists⟩
  | append_singleton front last ih =>
    obtain ⟨line, number⟩ := last
    rw [run_concat] at ran
    obtain ⟨before, ranFront, stepped⟩ := bind_eq_ok_iff.mp ran
    obtain ⟨written, lineByLine, listsFront⟩ := ih ranFront
    have earlier : List.Forall₂ (WrittenAt o origin (front ++ [(line, number)]))
        (front.filter (·.1.isTransition)) written :=
      lineByLine.imp fun _ _ writtenAt => writtenAt.append _
    by_cases transition : line.isTransition
    · obtain ⟨t, both, writes, rfl⟩ := step_transition transition stepped
      obtain ⟨silent, source, target⟩ := writes.silentMoves
      have here : WrittenAt o origin (front ++ [(line, number)]) (line, number) t :=
        ⟨before, both, ⟨front, [], rfl, ranFront⟩, writes⟩
      refine ⟨written ++ [t], ?_, (silent.lists listsFront).addTransition source target⟩
      rw [List.filter_append]
      simp only [List.filter_cons, transition, List.filter_nil]
      exact List.rel_append earlier (.cons here .nil)
    · refine ⟨written, ?_, (step_silentMoves transition stepped).lists listsFront⟩
      rw [List.filter_append]
      simpa [transition] using earlier

private theorem exists_of_forall₂ {α β : Type} {R : α → β → Prop} {as : List α} {bs : List β}
    {b : β} (rel : List.Forall₂ R as bs) (member : b ∈ bs) : ∃ a, R a b := by
  induction rel with
  | nil => contradiction
  | cons here _ ih =>
    rcases List.mem_cons.mp member with rfl | later
    · exact ⟨_, here⟩
    · exact ih later

/-- Whatever a state lists, some line wrote it. -/
theorem exists_writtenAt (lists : origin.Lists []) (ran : run o origin lines = .ok next) {s : State}
    (member : s ∈ next.draft.registry.states) (inside : t ∈ s.transitions) :
    ∃ entry, WrittenAt o origin lines entry t := by
  obtain ⟨written, lineByLine, listsNext⟩ := run_lists lists ran
  rw [listsNext.listed s member] at inside
  exact exists_of_forall₂ lineByLine (List.mem_filter.mp inside).1

/-- Every transition that was written is listed exactly once. -/
theorem Lists.transitionCount_eq (lists : r.Lists written) :
    r.toAnalysis.transitionCount = written.length := by
  have covered : ∀ t ∈ written, t.source ∈ r.draft.registry.states.map (·.id) := by
    intro t inside
    obtain ⟨s, there, named⟩ := (lists.known t inside).1
    exact List.mem_map.mpr ⟨s, there, named⟩
  have share (s : State) (member : s ∈ r.draft.registry.states) :
      s.transitions.length = (written.filter (·.source == s.id)).length := by
    rw [lists.listed s member]
  calc r.toAnalysis.transitionCount
      = (r.draft.registry.states.map fun s => s.transitions.length).sum := List.length_flatMap
    _ = (r.draft.registry.states.map fun s => (written.filter (·.source == s.id)).length).sum := by
        rw [List.map_congr_left share]
    _ = ((r.draft.registry.states.map (·.id)).map
          fun id => (written.filter (·.source == id)).length).sum := by
        rw [List.map_map]
        rfl
    _ = written.length := Graph.sum_length_filter_eq (·.source) lists.numbered.nodup covered

/-- What a state lists leaves that state, and both ends of it exist. -/
theorem Lists.known_of_mem (lists : r.Lists written) {s : State}
    (member : s ∈ r.draft.registry.states) (inside : t ∈ s.transitions) :
    t.source = s.id ∧ r.draft.registry.Known t.target := by
  rw [lists.listed s member] at inside
  obtain ⟨old, leaves⟩ := List.mem_filter.mp inside
  exact ⟨beq_iff_eq.mp leaves, (lists.known t old).2⟩

/-- Every transition is an edge between states of the diagram. -/
theorem Lists.edges_eq (lists : r.Lists written) :
    Graph.edges r.toAnalysis.states = r.toAnalysis.states.flatMap (·.transitions) := by
  apply Graph.edges_eq_self
  intro t member
  obtain ⟨s, there, inside⟩ := List.mem_flatMap.mp member
  obtain ⟨leaves, target⟩ := lists.known_of_mem there inside
  exact ⟨⟨s, there, leaves.symm⟩, target⟩

/-- A graph of the states has an edge for every transition. -/
theorem Lists.edgeCount_eq (lists : r.Lists written) :
    (Graph.ofStates r.toAnalysis.states).edgeCount = r.toAnalysis.transitionCount := by
  rw [Graph.ofStates_edgeCount, lists.edges_eq]
  rfl

end Reading

/-- So the graph of a diagram has an edge for every transition. -/
theorem edgeCount_of_analyze {o : Options} {text : String} {a : Analysis} (read : analyze o text = .ok a) :
    (Graph.ofStates a.states).edgeCount = a.transitionCount := by
  obtain ⟨r, ran, rfl⟩ := analyze_eq_ok_iff.mp read
  obtain ⟨_, -, lists⟩ := Reading.run_lists (Reading.start_lists _) ran
  exact lists.edgeCount_eq

/-- A listing calls the target of a transition by its name if some state bears its number. -/
theorem targetText_eq {a : Analysis} {id : StateId} (known : ∃ s ∈ a.states, s.id = id) :
    ∃ target ∈ a.states, target.id = id ∧ a.state? id = some target ∧
      Report.targetText a id = target.short := by
  obtain ⟨s, member, named⟩ := known
  cases hit : a.state? id with
  | none =>
    simp only [Analysis.state?, List.find?_eq_none, beq_iff_eq] at hit
    exact absurd named (hit s member)
  | some target =>
    have found : (a.states.find? fun s => s.id == id) = some target := hit
    refine ⟨target, List.mem_of_find?_eq_some found, ?_, rfl, ?_⟩
    · simpa using List.find?_some found
    · rw [Report.targetText, hit]

/-- The transitions of a diagram are the ones that its lines write, one for each line that is a
transition. Each is listed once, by the state that its source referred to on that line, in the order
of the lines. Both of its ends are states of the diagram, so listing it never fails, a graph has an
edge for it, and a listing can name its target. -/
theorem transition_conservation {o : Options} {text : String} {a : Analysis}
    (read : analyze o text = .ok a) :
    ∃ written : List Transition,
      List.Forall₂ (Reading.WrittenAt o (.start o.startingId.toNat) (numberedLines text))
        ((numberedLines text).filter (·.1.isTransition)) written ∧
      (∀ s ∈ a.states, s.transitions = written.filter (·.source == s.id)) ∧
      a.transitionCount = (numberedLines text).countP (·.1.isTransition) ∧
      (∀ s ∈ a.states, ∀ t ∈ s.transitions, t.source = s.id ∧
        ∃ target ∈ a.states, target.id = t.target ∧ a.state? t.target = some target ∧
          Report.targetText a t.target = target.short) ∧
      (∀ entry before t both,
        Reading.ReachedAt o (.start o.startingId.toNat) (numberedLines text) entry before →
        before.Writes o entry.1 entry.2 t both →
        ∃ registry, both.draft.registry.addTransition? t = some registry) ∧
      (Graph.ofStates a.states).edgeCount = a.transitionCount := by
  obtain ⟨r, ran, rfl⟩ := analyze_eq_ok_iff.mp read
  obtain ⟨written, lineByLine, lists⟩ := Reading.run_lists (Reading.start_lists _) ran
  have count : r.toAnalysis.transitionCount = (numberedLines text).countP (·.1.isTransition) := by
    rw [lists.transitionCount_eq, ← lineByLine.length_eq, List.countP_eq_length_filter]
  refine ⟨written, lineByLine, lists.listed, count, ?_, ?_, lists.edgeCount_eq⟩
  · intro s member t inside
    obtain ⟨leaves, target⟩ := lists.known_of_mem member inside
    exact ⟨leaves, targetText_eq target⟩
  · rintro entry before t both ⟨earlier, later, -, ranEarlier⟩ writes
    obtain ⟨_, -, listsBefore⟩ := Reading.run_lists (Reading.start_lists _) ranEarlier
    exact writes.addTransition?_eq_some listsBefore

/-- A state that is called by its name and by its nickname, with a transition to itself and one to a
state that the same line creates. -/
def renamed : String :=
  "state \"Long\" as L\n[*] --> L : go\nL --> L\nLong --> [*] : stop\nX --> Long"

theorem transition_conservation_renamed :
    ∃ a, analyze {} renamed = .ok a ∧
      a.states.map (·.transitions.map fun t => (t.source, t.target, t.event)) =
        [[(1, 1, none), (1, 3, some "stop")], [(2, 1, some "go")], [], [(4, 1, none)]] ∧
      ∃ written, List.Forall₂ (Reading.WrittenAt {} (.start 0) (numberedLines renamed))
          ((numberedLines renamed).filter (·.1.isTransition)) written ∧
        (∀ s ∈ a.states, s.transitions = written.filter (·.source == s.id)) ∧
        (Graph.ofStates a.states).edgeCount = a.transitionCount := by
  refine ⟨_, by cbv, by cbv, ?_⟩
  obtain ⟨written, lineByLine, listed, -, -, -, edges⟩ :=
    @transition_conservation {} renamed _ (by cbv)
  exact ⟨written, lineByLine, listed, edges⟩

end Statechart
