import Statechart.Proofs.Repetition

/-! The names that kinds go with. A name asks for a plain state, for a start or an end, or for a history, and
read again it still asks for the same. So a state that was created for its name alone has the kind that its name
stands for. A stereotype gives a new state another kind, under whatever name; but none of the three kinds can be
given by a stereotype, and a state that exists keeps the kind it has. -/
namespace Statechart

/-- The name of a state stands for its kind, if it has one of the kinds that names stand for. -/
def State.NamedForKind (s : State) : Prop :=
  match s.kind with
  | .plain => Name.ofString s.name = .plain s.name
  | .initial => Name.ofString s.name = .initial
  | .history => ∃ owner marker, Name.ofString s.name = .history owner marker
  | .fork | .join | .choice | .start | .finish | .custom _ => True

namespace State

variable {s t : State}

/-- Only the name and the kind of a state count. -/
theorem NamedForKind.congr (named : s.NamedForKind) (name : t.name = s.name) (kind : t.kind = s.kind) :
    t.NamedForKind := by
  unfold NamedForKind
  rw [name, kind]
  exact named

/-- A kind that no name stands for goes with any name. -/
theorem namedForKind_of_ne (other : ∀ q : Request, s.kind ≠ q.kind) : s.NamedForKind := by
  unfold NamedForKind
  cases kind : s.kind with
  | plain => exact absurd kind (other (.plain ""))
  | initial => exact absurd kind (other .initial)
  | history => exact absurd kind (other (.history "" .root))
  | fork | join | choice | start | finish | custom => trivial

@[simp] theorem blank_kind (id : StateId) (name : String) (kind : Kind) (owner : Scope) :
    (blank id name kind owner).kind = kind := rfl

/-- A state that is created for a request bears a name that stands for the kind asked for. -/
theorem namedForKind_of_readable {q : Request} (readable : q.Readable) (id : StateId) (owner : Scope) :
    (blank id q.name q.kind owner).NamedForKind := by
  cases q with
  | initial => exact Name.ofString_initialMark
  | history | plain => exact readable

/-- With a stereotype, the kind is another one. -/
theorem namedForKind_of_missing {d : Draft} {identity : Identity} {raw : String} {role : Role}
    {place : Placement} (missing : d.resolve identity raw role = .missing place)
    (stereotype : Option String) (id : StateId) (owner : Scope) :
    (blank id place.name ((stereotype.map Kind.ofStereotype).getD place.kind) owner).NamedForKind := by
  obtain ⟨-, rfl⟩ := Draft.resolve_eq_missing_iff.mp missing
  rw [Request.placement_name, Request.placement_kind]
  cases stereotype with
  | none => exact namedForKind_of_readable (d.request_readable identity _) id owner
  | some text =>
    apply namedForKind_of_ne
    intro q
    rw [blank_kind, Option.map_some, Option.getD_some]
    exact Request.ofStereotype_ne_kind text q

end State

namespace Reading

variable {o : Options} {r next : Reading} {id : StateId} {change : State → State}

/-- All states bear names that stand for their kinds. -/
def NamedForKinds (r : Reading) : Prop :=
  ∀ s ∈ r.draft.registry.states, s.NamedForKind

theorem NamedForKinds.modify (named : r.NamedForKinds) (id : StateId)
    (sameName : ∀ s, (change s).name = s.name) (sameKind : ∀ s, (change s).kind = s.kind) :
    (r.modify id change).NamedForKinds := by
  intro s member
  obtain ⟨before, there, rfl | rfl⟩ := Registry.exists_of_mem_modify member
  · exact named _ there
  · exact (named before there).congr (sameName before) (sameKind before)

/-- Every move keeps to this: states are created for what their names ask for, and neither names nor kinds ever
change. -/
theorem Move.namedForKinds {listed : Option Transition} (move : Move o listed r next)
    (named : r.NamedForKinds) : next.NamedForKinds := by
  cases move with
  | bind | report | enter | leave => exact named
  | create stereotype missing =>
    refine List.forall_mem_append.mpr ⟨named, List.forall_mem_singleton.mpr ?_⟩
    exact State.namedForKind_of_missing missing stereotype _ _
  | annotate => exact named.modify _ (fun _ => rfl) (fun _ => rfl)
  | connect =>
    rw [addTransition_eq]
    exact named.modify _ (fun _ => rfl) (fun _ => rfl)

/-- After a declaration with a stereotype, the states are the ones that were there, and one with the kind of the
stereotype if the name found none. -/
theorem step_stereotype {number : Nat} {line : Line} {name label : String}
    (declares : line.declaration? = some (name, some label)) (ran : r.step o number line = .ok next) :
    ∀ s ∈ next.draft.registry.states,
      s ∈ r.draft.registry.states ∨ s.kind = Kind.ofStereotype label := by
  intro s member
  rcases step_declaration declares ran with ⟨-, same⟩ | ⟨-, id, obtained⟩
  · rw [same] at member
    exact .inl member
  · rcases Draft.obtain_eq_ok_iff.mp obtained with ⟨-, same⟩ | ⟨place, -, -, -, grown⟩
    · rw [same] at member
      exact .inl member
    · rw [grown] at member
      rcases List.mem_append.mp member with old | fresh
      · exact .inl old
      · exact .inr (by rw [List.mem_singleton.mp fresh, State.blank_kind, Option.map_some, Option.getD_some])

end Reading

/-- In a diagram, the kind of a state can be told from its name unless a stereotype gave it: a plain state has a
name that is read as this very plain name, a start or an end one that is read as the mark of starts and ends, and
a history one that is read as the name of a history. No stereotype is a word for one of these kinds, and a line
that declares a state with a stereotype adds no state of another kind than that of its stereotype. -/
theorem kinds_told_by_names {o : Options} {text : String} {a : Analysis} (read : analyze o text = .ok a) :
    (∀ s ∈ a.states,
      (s.kind = .plain → Name.ofString s.name = .plain s.name) ∧
      (s.kind = .initial → Name.ofString s.name = .initial) ∧
      (s.kind = .history → ∃ owner marker, Name.ofString s.name = .history owner marker)) ∧
    (∀ label, Kind.ofStereotype label ≠ .plain ∧ Kind.ofStereotype label ≠ .initial ∧
      Kind.ofStereotype label ≠ .history) ∧
    ∀ (r next : Reading) (number : Nat) (line : Line) (name label : String),
      line.declaration? = some (name, some label) → r.step o number line = .ok next →
      ∀ s ∈ next.draft.registry.states,
        s ∈ r.draft.registry.states ∨ s.kind = Kind.ofStereotype label := by
  obtain ⟨r, ran, rfl⟩ := analyze_eq_ok_iff.mp read
  have named : r.NamedForKinds :=
    (Reading.run_moves ran).preserves Reading.Move.namedForKinds fun _ member => nomatch member
  refine ⟨?_, ?_, fun _ _ _ _ _ _ => Reading.step_stereotype⟩
  · intro s member
    have here := named s member
    unfold State.NamedForKind at here
    refine ⟨?_, ?_, ?_⟩
    all_goals
      intro kind
      rwa [kind] at here
  · intro label
    exact ⟨Request.ofStereotype_ne_kind label (.plain ""), Request.ofStereotype_ne_kind label .initial,
      Request.ofStereotype_ne_kind label (.history "" .root)⟩

/-- Stereotypes on the mark of a start and on the name of a history, words for the three kinds as stereotypes, a
nickname for a marker, a plain name, and a history whose owner is not known. -/
def disguised : String :=
  "state [*] <<fork>>\nstate \"[H*]\" as X <<Initial>>\n[*] --> X\nstate A <<plain>>\nB --> Ghost [H] : again"

theorem kinds_told_by_names_disguised :
    ∃ a, analyze {} disguised = .ok a ∧
      a.states.map (fun s => (s.name, s.kind)) = [("[*]", .fork), ("[H*]", .custom "Initial"),
        ("[*]", .initial), ("[H*]", .history), ("A", .custom "plain"), ("B", .plain),
        ("Ghost [H]", .history)] ∧
      (∀ s ∈ a.states,
        (s.kind = .plain → Name.ofString s.name = .plain s.name) ∧
        (s.kind = .initial → Name.ofString s.name = .initial) ∧
        (s.kind = .history → ∃ owner marker, Name.ofString s.name = .history owner marker)) := by
  have read : analyze {} disguised = .ok
      { states := [⟨1, "[*]", .fork, .root, "", []⟩, ⟨2, "[H*]", .custom "Initial", .root, "", []⟩,
          ⟨3, "[*]", .initial, .root, "", [⟨3, 4, none⟩]⟩, ⟨4, "[H*]", .history, .root, "", []⟩,
          ⟨5, "A", .custom "plain", .root, "", []⟩,
          ⟨6, "B", .plain, .root, "", [⟨6, 7, some "again"⟩]⟩, ⟨7, "Ghost [H]", .history, .root, "", []⟩]
        diagnostics := []
        lastId := 7 } := by decide +kernel
  refine ⟨_, read, ?_, (kinds_told_by_names read).1⟩
  rfl

end Statechart
