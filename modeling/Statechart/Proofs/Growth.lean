import Statechart.Proofs.Lines
import Statechart.Proofs.Moves

/-! A diagram only ever grows. Whatever is written after a text, the states that the text has keep
their numbers, names, kinds and owners, their transitions and contents are continued but never
changed, and nothing that was reported is taken back. A text that cannot be read cannot be mended by
what follows it. -/
namespace Statechart

/-- The same state at a later time. -/
structure State.Grows (s t : State) : Prop where
  id : t.id = s.id
  name : t.name = s.name
  kind : t.kind = s.kind
  owner : t.owner = s.owner
  transitions : s.transitions <+: t.transitions
  content : s.content.toList <+: t.content.toList

namespace State.Grows

variable {s t u : State}

theorem refl (s : State) : s.Grows s :=
  ⟨rfl, rfl, rfl, rfl, List.prefix_rfl, List.prefix_rfl⟩

theorem trans (first : s.Grows t) (second : t.Grows u) : s.Grows u where
  id := second.id.trans first.id
  name := second.name.trans first.name
  kind := second.kind.trans first.kind
  owner := second.owner.trans first.owner
  transitions := first.transitions.trans second.transitions
  content := first.content.trans second.content

theorem annotate (s : State) (text separator : String) : s.Grows (s.annotate text separator) where
  id := rfl
  name := rfl
  kind := rfl
  owner := rfl
  transitions := List.prefix_rfl
  content := by
    unfold State.annotate
    split
    · rename_i empty
      simp [empty]
    · simp [List.append_assoc]

theorem addTransition (s : State) (added : Transition) : s.Grows (s.addTransition added) where
  id := rfl
  name := rfl
  kind := rfl
  owner := rfl
  transitions := List.prefix_append _ _
  content := List.prefix_rfl

/-- A change that makes states grow may reach a state or not. -/
theorem reach {change : State → State} (grows : ∀ s : State, s.Grows (change s)) (id : StateId)
    (s : State) : s.Grows (if s.id = id then change s else s) := by
  split
  · exact grows s
  · exact .refl s

end State.Grows

/-- What a diagram says at a later time. -/
structure Analysis.Grows (a b : Analysis) : Prop where
  length_le : a.states.length ≤ b.states.length
  states : ∀ (i : Nat) (s : State), a.states[i]? = some s → ∃ t, b.states[i]? = some t ∧ s.Grows t
  diagnostics : a.diagnostics <+: b.diagnostics
  lastId_le : a.lastId ≤ b.lastId

theorem Analysis.Grows.refl (a : Analysis) : a.Grows a where
  length_le := Nat.le_refl _
  states _ s held := ⟨s, held, .refl s⟩
  diagnostics := List.prefix_rfl
  lastId_le := Nat.le_refl _

theorem Analysis.Grows.trans {a b c : Analysis} (first : a.Grows b) (second : b.Grows c) :
    a.Grows c where
  length_le := Nat.le_trans first.length_le second.length_le
  states i s held := by
    obtain ⟨t, later, grown⟩ := first.states i s held
    obtain ⟨u, latest, grownOn⟩ := second.states i t later
    exact ⟨u, latest, grown.trans grownOn⟩
  diagnostics := first.diagnostics.trans second.diagnostics
  lastId_le := Nat.le_trans first.lastId_le second.lastId_le

/-- The states that fit something which never changes about a state keep their places among each
other. -/
theorem Analysis.Grows.filter_isPrefix {a b : Analysis} (grown : a.Grows b) {fits : State → Bool}
    (kept : ∀ {s t : State}, s.Grows t → fits t = fits s) :
    (a.states.filter fits).map (·.id) <+: (b.states.filter fits).map (·.id) := by
  have places := grown.states
  generalize a.states = before at places
  generalize b.states = after at places
  induction before generalizing after with
  | nil => exact List.nil_prefix
  | cons s before ih =>
    obtain ⟨t, there, grownHere⟩ := places 0 s rfl
    cases after with
    | nil => cases there
    | cons first after =>
      obtain rfl := Option.some.inj there
      have rest := ih after fun i s held => places (i + 1) s held
      by_cases fit : fits s
      · simpa [kept grownHere, fit, grownHere.id] using rest
      · simpa [kept grownHere, fit] using rest

/-- The first state that fits something of that kind stays the first one. -/
theorem Analysis.Grows.find?_eq_some {a b : Analysis} (grown : a.Grows b) {fits : State → Bool}
    (kept : ∀ {s t : State}, s.Grows t → fits t = fits s) {s : State}
    (found : a.states.find? fits = some s) : ∃ t, b.states.find? fits = some t ∧ t.id = s.id := by
  obtain ⟨later, shape⟩ := grown.filter_isPrefix kept
  rw [← List.head?_filter] at found
  have first : ((b.states.filter fits).map (·.id)).head? = some s.id := by
    rw [← shape, List.head?_append, List.head?_map, found]
    rfl
  rw [List.head?_map, List.head?_filter] at first
  exact Option.map_eq_some_iff.mp first

namespace Reading

variable {o : Options} {r next : Reading}

/-- A change that makes states grow lets the diagram grow. -/
theorem grows_modify (r : Reading) (id : StateId) (change : State → State)
    (grows : ∀ s : State, s.Grows (change s)) :
    r.toAnalysis.Grows (r.modify id change).toAnalysis where
  length_le := by
    rcases r.draft.registry.modify_eq id change with same | ⟨position, same⟩ <;>
      simp [toAnalysis, modify, same]
  states i s held := by
    obtain ⟨after, there, rfl | rfl⟩ := Registry.exists_getElem?_modify held id change
    · exact ⟨_, there, .refl _⟩
    · exact ⟨_, there, grows s⟩
  diagnostics := List.prefix_rfl
  lastId_le := by simp [toAnalysis, modify]

theorem grows_push (r : Reading) (name : String) (kind : Kind) (owner : Scope) :
    r.toAnalysis.Grows (r.push name kind owner).toAnalysis where
  length_le := by simp [toAnalysis, push, Draft.push]
  states i s held := ⟨s, Registry.getElem?_push_eq_some.mpr (.inl held), .refl s⟩
  diagnostics := List.prefix_rfl
  lastId_le := by simp [toAnalysis, push, Draft.push]

/-- No move takes anything away. -/
theorem Move.grows {listed : Option Transition} (move : Move o listed r next) :
    r.toAnalysis.Grows next.toAnalysis := by
  cases move with
  | bind => exact .refl _
  | report => exact { Analysis.Grows.refl r.toAnalysis with diagnostics := List.prefix_append _ _ }
  | create => exact grows_push r _ _ _
  | annotate => exact grows_modify r _ _ fun s => .annotate s _ _
  | connect =>
    rw [addTransition_eq]
    exact grows_modify r _ _ fun s => .addTransition s _
  | enter => exact .refl _
  | leave => exact .refl _

theorem Moves.grows (moves : Moves o r next) : r.toAnalysis.Grows next.toAnalysis := by
  apply moves.preserves
  · intro _ _ _ move grown
    exact grown.trans move.grows
  · exact .refl _

end Reading

/-- Writing on after a line feed only adds to a diagram. If the text could not be read, nothing
changes that, and if what follows cannot be read, one of the lines that were added is to blame. -/
theorem analyze_append (o : Options) (text added : String) :
    match analyze o text, analyze o (text ++ "\n" ++ added) with
    | .error d, result => result = .error d
    | .ok a, .ok b => a.Grows b
    | .ok _, .error d => lineCount text < d.line := by
  have lines := numberedLines_append text added
  cases before : analyze o text with
  | error d =>
    rw [analyze_eq_error_iff] at before
    have after : analyze o (text ++ "\n" ++ added) = .error d := by
      rw [analyze_eq_error_iff, lines, Reading.run_append, before]
      rfl
    exact after
  | ok a =>
    obtain ⟨r, ran, rfl⟩ := analyze_eq_ok_iff.mp before
    cases after : analyze o (text ++ "\n" ++ added) with
    | ok b =>
      obtain ⟨next, ranOn, rfl⟩ := analyze_eq_ok_iff.mp after
      rw [lines, Reading.run_append, ran] at ranOn
      exact (Reading.run_moves ranOn).grows
    | error d =>
      rw [analyze_eq_error_iff, lines, Reading.run_append, ran] at after
      obtain ⟨entry, member, blamed⟩ := Reading.run_error_line after
      have numbered := List.le_snd_of_mem_zipIdx member
      show lineCount text < d.line
      omega

end Statechart
