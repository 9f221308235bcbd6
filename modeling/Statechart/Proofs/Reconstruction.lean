import Statechart.Proofs.Requests
import Statechart.Proofs.WrittenLines

/-! From a diagram to its text and back. A forest of composite states is written down by opening and
closing a brace for each of them, the transitions between them below that. Reading the text gives the
forest back: each state where it was, under the next number, and the transitions in their order. -/
namespace Statechart

/-- An ordered forest of composite states: nothing, or a state with the forest inside it, and then the
forest after it. -/
inductive Outline where
  /-- No states. -/
  | empty
  /-- A state, what is inside it, and what comes after it. -/
  | composite (name : String) (inside after : Outline)
deriving DecidableEq, Repr

namespace Outline

/-- The names of the states, each before what is inside it. -/
def names : Outline → List String
  | empty => []
  | composite name inside after => name :: inside.names ++ after.names

/-- The lines that write the states down. -/
def lines : Outline → List String
  | empty => []
  | composite name inside after =>
    ("state " ++ name ++ " \x7b") :: inside.lines ++ "\x7d" :: after.lines

/-- The states themselves, in a scope and numbered from a number on, each before what is inside it. -/
def states (owner : Scope) (next : StateId) : Outline → List State
  | empty => []
  | composite name inside after =>
    State.blank next name .plain owner ::
      inside.states (.state next) (next + 1) ++ after.states owner (next + 1 + inside.names.length)

/-- The number of a state, if numbers are handed out above the given one. -/
def idOf (outline : Outline) (last : StateId) (name : String) : StateId :=
  last + 1 + outline.names.idxOf name

theorem states_names (outline : Outline) (owner : Scope) (next : StateId) :
    (outline.states owner next).map (·.name) = outline.names := by
  induction outline generalizing owner next with
  | empty => rfl
  | composite name inside after ihInside ihAfter => simp [states, names, ihInside, ihAfter, State.blank]

theorem states_length (outline : Outline) (owner : Scope) (next : StateId) :
    (outline.states owner next).length = outline.names.length := by
  rw [← outline.states_names owner next, List.length_map]

/-- A state is written down by its two braces, with what is inside it between them. -/
theorem zipIdx_lines (name : String) (inside after : Outline) (number : Nat) :
    ((composite name inside after).lines.map Line.classify).zipIdx number =
      (Line.classify ("state " ++ name ++ " \x7b"), number) ::
        ((inside.lines.map Line.classify).zipIdx (number + 1) ++
          (Line.classify "\x7d", number + 1 + inside.lines.length) ::
            (after.lines.map Line.classify).zipIdx (number + 1 + inside.lines.length + 1)) := by
  simp [lines, List.zipIdx_append, List.zipIdx_cons]

end Outline

/-- The transition that an edge stands for, where the names have these numbers. -/
def Edge.transition (e : Edge) (number : String → StateId) : Transition :=
  { source := number e.source, target := number e.target, event := e.event }

/-- A state with the edges that leave it. -/
def State.draw (number : String → StateId) (edges : List Edge) (s : State) : State :=
  { s with
    transitions := s.transitions ++ (edges.filter (·.source == s.name)).map (·.transition number) }

theorem Registry.findByName?_eq_none_iff {r : Registry} {name : String} :
    r.findByName? name = none ↔ name ∉ r.states.map (·.name) := by
  simp [Registry.findByName?]

namespace Draft

variable {d : Draft} {identity : Identity} {role : Role} {name : String}

/-- Without nicknames, a plain word asks for the state of that name. -/
theorem request_of_legal (legal : Legal name) (unnamed : d.nicknames = .empty) :
    d.request identity (d.fullName name) = .plain name := by
  have full : d.fullName name = name := by
    rw [fullName, unnamed, legal.trim_eq, String.ofList_toList]
    rfl
  rw [full, request, legal.ofString_eq]

theorem resolve_of_legal (legal : Legal name) (unnamed : d.nicknames = .empty) :
    d.resolve .global name role =
      .ofSearch (d.registry.findByName? name) name .plain d.nesting.scope := by
  rw [resolve_eq_answer, request_of_legal legal unnamed]
  simp only [answer, search, findPlain?]
  cases d.registry.findByName? name <;> rfl

end Draft

namespace Reading

variable {o : Options} {r next : Reading} {number : Nat}

/-- A reading with more states. -/
def append (r : Reading) (states : List State) : Reading :=
  { r with
    draft := { r.draft with registry := { r.draft.registry with states := r.draft.registry.states ++ states } } }

/-- A reading with edges drawn. -/
def draw (r : Reading) (number : String → StateId) (edges : List Edge) : Reading :=
  { r with draft := { r.draft with registry :=
      { r.draft.registry with states := r.draft.registry.states.map (·.draw number edges) } } }

/-- A reading with one more composite state, inside it. -/
def intoNew (r : Reading) (name : String) : Reading :=
  (r.push name .plain r.draft.nesting.scope).enter (r.draft.registry.lastId + 1)

@[simp] theorem intoNew_scope (r : Reading) (name : String) :
    (r.intoNew name).draft.nesting.scope = .state (r.draft.registry.lastId + 1) := rfl

@[simp] theorem intoNew_lastId (r : Reading) (name : String) :
    (r.intoNew name).draft.registry.lastId = r.draft.registry.lastId + 1 :=
  Registry.push_lastId _ _ _ _

@[simp] theorem intoNew_names (r : Reading) (name : String) :
    (r.intoNew name).draft.registry.states.map (·.name) =
      r.draft.registry.states.map (·.name) ++ [name] :=
  List.map_append

@[simp] theorem append_lastId (r : Reading) (states : List State) :
    (r.append states).draft.registry.lastId = r.draft.registry.lastId + states.length := by
  simp only [append, Registry.lastId, List.length_append, Nat.add_assoc]

@[simp] theorem append_names (r : Reading) (states : List State) :
    (r.append states).draft.registry.states.map (·.name) =
      r.draft.registry.states.map (·.name) ++ states.map (·.name) :=
  List.map_append

theorem append_append (r : Reading) (first second : List State) :
    (r.append first).append second = r.append (first ++ second) := by
  simp [append]

/-- Once a new composite state was left, it and what is inside it are there, and the scope is the same as
before. -/
theorem leave_intoNew (r : Reading) (name : String) (inside : List State) :
    ((r.intoNew name).append inside).leave = r.append
      (State.blank (r.draft.registry.lastId + 1) name .plain r.draft.nesting.scope :: inside) := by
  simp [append, intoNew, push, Draft.push, Registry.push, enter, leave, Nesting.enter, Nesting.leave]

/-- A brace that is opened for a new name creates a state and leads into it. -/
theorem step_open {name : String} (global : o.identity = .global) (legal : Legal name)
    (unnamed : r.draft.nicknames = .empty) (new : name ∉ r.draft.registry.states.map (·.name))
    (room : r.draft.registry.lastId < StateId.max) :
    r.step o number (.composite name none) = .ok (r.intoNew name) := by
  have missing : r.draft.resolve o.identity name .declaration =
      .missing { name, kind := .plain, owner := r.draft.nesting.scope } := by
    rw [global, Draft.resolve_of_legal legal unnamed, Registry.findByName?_eq_none_iff.mpr new]
    rfl
  exact bind_eq_ok_iff.mpr
    ⟨_, obtain_eq_ok_iff.mpr (.inr ⟨_, missing, room, rfl, rfl⟩), rfl⟩

/-- Reading the lines of a forest adds its states. -/
theorem run_outline {outline : Outline} (global : o.identity = .global)
    (legal : ∀ name ∈ outline.names, Legal name) (unnamed : r.draft.nicknames = .empty)
    (distinct : (r.draft.registry.states.map (·.name) ++ outline.names).Nodup)
    (room : r.draft.registry.lastId + outline.names.length ≤ StateId.max) (number : Nat) :
    run o r ((outline.lines.map Line.classify).zipIdx number) =
      .ok (r.append (outline.states r.draft.nesting.scope (r.draft.registry.lastId + 1))) := by
  induction outline generalizing r number with
  | empty => simp [Outline.lines, Outline.states, append, run, pure, Except.pure]
  | composite name inside after ihInside ihAfter =>
    simp only [Outline.names, List.cons_append, List.length_cons, List.length_append,
      List.forall_mem_cons, List.forall_mem_append] at legal distinct room
    obtain ⟨legalName, legalInside, legalAfter⟩ := legal
    obtain ⟨id, named⟩ : ∃ id, r.draft.registry.lastId + 1 = id := ⟨_, rfl⟩
    obtain ⟨body, filling⟩ : ∃ body, inside.states (.state id) (id + 1) = body := ⟨_, rfl⟩
    obtain ⟨left, closing⟩ : ∃ left,
      r.append (State.blank id name .plain r.draft.nesting.scope :: body) = left := ⟨_, rfl⟩
    have opened : r.step o number (Line.classify ("state " ++ name ++ " \x7b")) = .ok (r.intoNew name) := by
      rw [Line.classify_open legalName]
      exact step_open global legalName unnamed (by grind) (by lia)
    have filled (k : Nat) : run o (r.intoNew name) ((inside.lines.map Line.classify).zipIdx k) =
        .ok ((r.intoNew name).append body) := by
      have scope : (r.intoNew name).draft.nesting.scope = .state id := by rw [intoNew_scope, named]
      have last : (r.intoNew name).draft.registry.lastId = id := by rw [intoNew_lastId, named]
      rw [← filling, ← scope, ← last]
      apply ihInside legalInside
      · exact unnamed
      · rw [intoNew_names]
        grind
      · lia
    have closed (k : Nat) :
        ((r.intoNew name).append body).step o k (Line.classify "\x7d") = .ok left := by
      rw [Line.classify_close, ← closing, ← named, ← leave_intoNew]
      rfl
    have count : body.length = inside.names.length := by rw [← filling, Outline.states_length]
    have rest (k : Nat) : run o left ((after.lines.map Line.classify).zipIdx k) =
        .ok (left.append (after.states r.draft.nesting.scope (id + 1 + inside.names.length))) := by
      have last : left.draft.registry.lastId + 1 = id + 1 + inside.names.length := by
        rw [← closing, append_lastId, List.length_cons, count]
        lia
      have scope : left.draft.nesting.scope = r.draft.nesting.scope := by rw [← closing]; rfl
      rw [← last, ← scope]
      apply ihAfter legalAfter
      · rw [← closing]
        exact unnamed
      · rw [← closing, append_names, List.map_cons, ← filling, Outline.states_names]
        simpa [State.blank] using distinct
      · lia
    rw [Outline.zipIdx_lines, run_cons, opened]
    show run o (r.intoNew name) _ = _
    rw [run_split (filled _) (closed _), rest, ← closing, append_append, named]
    simp [Outline.states, filling]

/-- The names have numbers by which their states can be told, and there are no nicknames. -/
structure Charted (r : Reading) (number : String → StateId) (names : List String) : Prop where
  numbered : r.draft.registry.Numbered
  unnamed : r.draft.nicknames = .empty
  /-- Each of the names is the name of a state. -/
  drawn : ∀ name ∈ names, name ∈ r.draft.registry.states.map (·.name)
  /-- A state has one of the names exactly if it has the number of the name. -/
  told : ∀ name ∈ names, ∀ s ∈ r.draft.registry.states, s.name = name ↔ s.id = number name

theorem draw_cons (r : Reading) (numbers : String → StateId) (e : Edge) (later : List Edge) :
    (r.draw numbers [e]).draw numbers later = r.draw numbers (e :: later) := by
  have twice (s : State) :
      (s.draw numbers [e]).draw numbers later = s.draw numbers (e :: later) := by
    by_cases leaves : e.source = s.name <;> simp [State.draw, leaves]
  simp [draw, twice]

section Edges

variable {numbers : String → StateId} {names : List String} {e : Edge} {edges : List Edge} {name : String}

/-- Each of the names refers to the state that has its number. -/
theorem Charted.obtain_eq (charted : r.Charted numbers names) (global : o.identity = .global)
    (legal : Legal name) (member : name ∈ names) (role : Role) (line : Nat) :
    r.obtain o line name role none = .ok (numbers name, r) := by
  cases hit : r.draft.registry.findByName? name with
  | none => exact absurd (charted.drawn name member) (Registry.findByName?_eq_none_iff.mp hit)
  | some t =>
    have tNamed : t.name = name := by simpa using List.find?_some hit
    have number := (charted.told name member t (List.mem_of_find?_eq_some hit)).mp tNamed
    refine obtain_eq_ok_iff.mpr (.inl ⟨?_, rfl⟩)
    rw [global, Draft.resolve_of_legal legal charted.unnamed, hit, ← number]
    rfl

/-- Reading the line of an edge draws the edge. -/
theorem Charted.step_edge (charted : r.Charted numbers names) (global : o.identity = .global)
    (legal : ∀ name ∈ names, Legal name) (source : e.source ∈ names) (target : e.target ∈ names)
    (line : Nat) :
    r.step o line (.transition e.source e.target e.event) = .ok (r.draw numbers [e]) := by
  have obtainedSource := charted.obtain_eq global (legal _ source) source .source line
  have obtainedTarget := charted.obtain_eq global (legal _ target) target .target line
  refine bind_eq_ok_iff.mpr ⟨_, obtainedSource, bind_eq_ok_iff.mpr ⟨_, obtainedTarget, ?_⟩⟩
  -- The state that is changed is the one that has the name of the source.
  have drawn (s : State) (member : s ∈ r.draft.registry.states) :
      (if s.id = numbers e.source then s.addTransition (e.transition numbers) else s) =
        s.draw numbers [e] := by
    have told := charted.told e.source source s member
    by_cases leaves : s.name = e.source
    · rw [if_pos (told.mp leaves)]
      simp [State.addTransition, State.draw, leaves]
    · rw [if_neg fun same => leaves (told.mpr same)]
      simp [State.draw, Ne.symm leaves]
  have registry : r.draft.registry.modify (numbers e.source) (·.addTransition (e.transition numbers)) =
      ⟨r.draft.registry.startingId, r.draft.registry.states.map (·.draw numbers [e])⟩ := by
    rw [← List.map_congr_left drawn, ← charted.numbered.modify_states,
      ← r.draft.registry.modify_startingId (numbers e.source) (·.addTransition (e.transition numbers))]
  show Except.ok (r.addTransition (e.transition numbers)) = _
  rw [addTransition_eq, modify, show (e.transition numbers).source = numbers e.source from rfl, registry]
  rfl

theorem Charted.draw (charted : r.Charted numbers names) (edges : List Edge) :
    (r.draw numbers edges).Charted numbers names where
  numbered i s held := by
    have mapped : (r.draft.registry.states.map (·.draw numbers edges))[i]? = some s := held
    rw [List.getElem?_map] at mapped
    obtain ⟨before, there, rfl⟩ := Option.map_eq_some_iff.mp mapped
    exact charted.numbered i before there
  unnamed := charted.unnamed
  drawn name member := by
    have same : (r.draw numbers edges).draft.registry.states.map (·.name) =
        r.draft.registry.states.map (·.name) := List.map_map
    rw [same]
    exact charted.drawn name member
  told name member s there := by
    obtain ⟨before, inside, rfl⟩ := List.mem_map.mp there
    exact charted.told name member before inside

/-- Reading the lines of some edges draws the edges. -/
theorem Charted.run_edges (charted : r.Charted numbers names) (global : o.identity = .global)
    (legal : ∀ name ∈ names, Legal name) (ends : ∀ e ∈ edges, e.source ∈ names ∧ e.target ∈ names)
    (events : ∀ e ∈ edges, ∀ event ∈ e.event, LegalEvent event) (line : Nat) :
    run o r (((edges.map Edge.line).map Line.classify).zipIdx line) = .ok (r.draw numbers edges) := by
  induction edges generalizing r line with
  | nil => simp [Reading.draw, State.draw, run, pure, Except.pure]
  | cons e later ih =>
    obtain ⟨⟨source, target⟩, endsLater⟩ := List.forall_mem_cons.mp ends
    obtain ⟨eventsHere, eventsLater⟩ := List.forall_mem_cons.mp events
    rw [List.map_cons, List.map_cons, List.zipIdx_cons, run_cons,
      Line.classify_edge (legal _ source) (legal _ target) eventsHere,
      charted.step_edge global legal source target]
    show run o (r.draw numbers [e]) _ = _
    rw [ih (charted.draw [e]) endsLater eventsLater, draw_cons]

end Edges

/-- Once a forest was read, its names can be told by their places in it. -/
theorem charted_outline {outline : Outline} {last : StateId} (distinct : outline.names.Nodup)
    (numbered : ((start last).append (outline.states .root (last + 1))).draft.registry.Numbered) :
    ((start last).append (outline.states .root (last + 1))).Charted (outline.idOf last) outline.names where
  numbered := numbered
  unnamed := rfl
  drawn name member := by
    rwa [← outline.states_names .root (last + 1)] at member
  told name member s there := by
    obtain ⟨i, held⟩ := List.mem_iff_getElem?.mp there
    have place : s.id = last + 1 + i := numbered i s held
    have listed : outline.names[i]? = some s.name := by
      rw [← outline.states_names .root (last + 1), List.getElem?_map]
      exact Option.map_eq_some_iff.mpr ⟨s, held, rfl⟩
    obtain ⟨bound, here⟩ := List.getElem?_eq_some_iff.mp listed
    have index : outline.names.idxOf s.name = i := by
      rw [← here]
      exact distinct.idxOf_getElem i bound
    unfold Outline.idOf
    rw [place, ← index]
    constructor
    · rintro rfl
      rfl
    · intro same
      have sameIndex : outline.names.idxOf name = outline.names.idxOf s.name := by lia
      exact ((List.idxOf_inj member).mp sameIndex).symm

end Reading

theorem Outline.lines_fit {outline : Outline} (legal : ∀ name ∈ outline.names, Legal name) :
    ∀ line ∈ outline.lines, '\n' ∉ line.toList ∧ line ≠ "" := by
  induction outline with
  | empty => simp [lines]
  | composite name inside after ihInside ihAfter =>
    simp only [names, List.cons_append, List.forall_mem_cons, List.forall_mem_append] at legal
    obtain ⟨legalName, legalInside, legalAfter⟩ := legal
    simp only [lines, List.cons_append, List.forall_mem_cons, List.forall_mem_append]
    have free := legalName.not_mem (c := '\n') (by decide)
    have written : "state " ++ name ++ " \x7b" ≠ "" := by simp
    exact ⟨⟨by simpa using free, written⟩, ihInside legalInside, ⟨by decide, by decide⟩,
      ihAfter legalAfter⟩

theorem Edge.line_fits {e : Edge} (legalSource : Legal e.source) (legalTarget : Legal e.target)
    (legalEvent : ∀ event ∈ e.event, LegalEvent event) : '\n' ∉ e.line.toList ∧ e.line ≠ "" := by
  have freeSource := legalSource.not_mem (c := '\n') (by decide)
  have freeTarget := legalTarget.not_mem (c := '\n') (by decide)
  cases drawn : e.event with
  | none => simp [Edge.line, drawn, freeSource, freeTarget]
  | some event =>
    have freeEvent := (legalEvent event drawn).2.2
    simp [Edge.line, drawn, freeSource, freeTarget, freeEvent]

/-- A diagram that is written down is read back. The text opens and closes a brace for each state of a
forest and draws the edges below that, between any two of the states. The result are the states in the
order of their braces, numbered from the starting number on, each in the state whose brace is open around
it, and with the edges that leave it in their order. -/
theorem statesAbove_of_spells {last : UInt64} {outline : Outline} {edges : List Edge} {text : String}
    (legal : ∀ name ∈ outline.names, Legal name) (distinct : outline.names.Nodup)
    (ends : ∀ e ∈ edges, e.source ∈ outline.names ∧ e.target ∈ outline.names)
    (events : ∀ e ∈ edges, ∀ event ∈ e.event, LegalEvent event)
    (room : last.toNat + outline.names.length ≤ StateId.max)
    (spells : Spells text (outline.lines ++ edges.map Edge.line)) :
    statesAbove last text =
      .ok ((outline.states .root (last.toNat + 1)).map (·.draw (outline.idOf last.toNat) edges)) := by
  have fits : ∀ line ∈ outline.lines ++ edges.map Edge.line, '\n' ∉ line.toList ∧ line ≠ "" := by
    rw [List.forall_mem_append]
    refine ⟨outline.lines_fit legal, ?_⟩
    simp only [List.forall_mem_map]
    intro e member
    exact e.line_fits (legal _ (ends e member).1) (legal _ (ends e member).2) (events e member)
  have numbering := spells.numberedLines_eq (fun line member => (fits line member).1)
    fun line member => (fits line member).2
  rw [List.map_append, List.zipIdx_append] at numbering
  have ranOutline := Reading.run_outline (o := { startingId := last }) (r := .start last.toNat) rfl legal
    rfl distinct room 1
  have charted := Reading.charted_outline distinct
    ((Reading.run_moves ranOutline).numbered (Registry.numbered_empty _))
  have ran : Reading.run { startingId := last } (.start last.toNat) (numberedLines text) = .ok
      (((Reading.start last.toNat).append (outline.states .root (last.toNat + 1))).draw
        (outline.idOf last.toNat) edges) := by
    rw [numbering, Reading.run_append, ranOutline]
    exact charted.run_edges rfl legal ends events _
  have read := analyze_eq_ok_iff.mpr ⟨_, ran, rfl⟩
  exact bind_eq_ok_iff.mpr ⟨_, read, rfl⟩

/-- Four states in and beside each other, of which one lies two deep. -/
def nested : Outline :=
  .composite "A" (.composite "B" .empty (.composite "C" .empty .empty)) (.composite "D" .empty .empty)

/-- Edges into and out of the inside, with events that look like lines. -/
def crossing : List Edge :=
  [⟨"C", "D", some "-->:\x7b"⟩, ⟨"D", "D", none⟩, ⟨"C", "A", some "\x7d"⟩]

/-- The text of both. -/
def nestedText : String :=
  "state A \x7b\nstate B \x7b\n\x7d\nstate C \x7b\n\x7d\n\x7d\nstate D \x7b\n\x7d\n" ++
    "C --> D : -->:\x7b\nD --> D\nC --> A : \x7d\n"

theorem statesAbove_of_spells_nested :
    ∃ states, statesAbove 41 nestedText = .ok states ∧
      states.map (fun s => (s.id, s.name, s.owner)) =
        [(42, "A", .root), (43, "B", .state 42), (44, "C", .state 42), (45, "D", .root)] ∧
      states.map (·.transitions) =
        [[], [], [⟨44, 45, some "-->:\x7b"⟩, ⟨44, 42, some "\x7d"⟩], [⟨45, 45, none⟩]] := by
  have legal : ∀ name ∈ nested.names, Legal name := by decide
  have events : ∀ e ∈ crossing, ∀ event ∈ e.event, LegalEvent event := by decide
  have spells : Spells nestedText (nested.lines ++ crossing.map Edge.line) := .inl (by decide)
  exact ⟨_, statesAbove_of_spells legal (by decide) (by decide) events (by decide) spells, by decide,
    by decide⟩

end Statechart
