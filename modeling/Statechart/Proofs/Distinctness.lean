import Mathlib
import Statechart.Proofs.Growth
import Statechart.Proofs.Requests

/-! Which names tell states apart. A state is created only where a name finds nothing, and what it is
created for can be told from the name that it gets. So the states with plain names are kept apart by
their names, everywhere or within one scope, whichever rule is in force; and the histories of a scope
are kept apart by their names. Stereotypes do not matter: a plain name finds states of every kind, and
no stereotype makes a history. -/
namespace Statechart

namespace State

/-- The name of a state is a plain one when it is read again. -/
def PlainlyNamed (s : State) : Prop :=
  ∃ name, Name.ofString s.name = .plain name

/-- Two states that no name can confuse. -/
structure Apart (identity : Identity) (s t : State) : Prop where
  plain : s.PlainlyNamed → t.PlainlyNamed →
    s.name ≠ t.name ∨ identity = .lexical ∧ s.owner ≠ t.owner
  history : s.kind = .history → t.kind = .history → s.name ≠ t.name ∨ s.owner ≠ t.owner

theorem Apart.of_grows {identity : Identity} {s t s' t' : State} (apart : s.Apart identity t)
    (grownS : s.Grows s') (grownT : t.Grows t') : s'.Apart identity t' where
  plain := by
    unfold PlainlyNamed
    rw [grownS.name, grownS.owner, grownT.name, grownT.owner]
    exact apart.plain
  history := by
    rw [grownS.kind, grownS.name, grownS.owner, grownT.kind, grownT.name, grownT.owner]
    exact apart.history

end State

namespace Draft

variable {d : Draft} {identity : Identity} {raw : String} {role : Role} {place : Placement}
  {q : Request}

/-- Whatever the role, a search for anything but a start or an end that fails leaves nothing to find. -/
theorem unmet_of_search (none : d.search identity role q = none) (other : q ≠ .initial) :
    ∀ s ∈ d.registry.states, ¬ d.Meets identity q s := by
  have roleless : d.search identity .declaration q = d.search identity role q := by
    cases q with
    | initial => contradiction
    | history | plain => rfl
  intro s member meets
  have found := (d.search_isSome_iff identity q).mpr ⟨s, member, meets⟩
  rw [roleless, none] at found
  cases found

/-- A state that is created for a name is apart from those that are there. -/
theorem apart_of_missing (missing : d.resolve identity raw role = .missing place)
    (stereotype : Option String) (id : StateId) {s : State} (member : s ∈ d.registry.states) :
    s.Apart identity
      (State.blank id place.name ((stereotype.map Kind.ofStereotype).getD place.kind) place.owner) := by
  obtain ⟨none, rfl⟩ := resolve_eq_missing_iff.mp missing
  have readable := d.request_readable identity (d.fullName raw)
  generalize d.request identity (d.fullName raw) = q at none readable
  constructor
  · -- The name that the new state gets is plain, so it was created for that plain name.
    rintro - ⟨name, read⟩
    rw [State.blank, Request.placement_name] at read
    cases q with
    | initial => simp [Request.name, Name.ofString_initialMark] at read
    | history =>
      obtain ⟨owner, marker, other⟩ := readable
      cases other.symm.trans read
    | plain wanted =>
      by_contra clash
      simp only [not_or, not_not, not_and] at clash
      obtain ⟨sameName, sameOwner⟩ := clash
      refine unmet_of_search none (by simp) s member ⟨sameName, ?_⟩
      intro lexical
      rw [sameOwner lexical]
      exact d.nesting.scope_mem_outward
  · -- No stereotype makes a history, so it was created for that history.
    intro remembers remembersToo
    rw [State.blank, Request.placement_kind] at remembersToo
    have kind : q.kind = .history :=
      (Request.getD_eq_kind_iff (p := .history "" .root)).mp remembersToo |>.2
    cases q with
    | initial | plain => cases kind
    | history name scope =>
      by_contra clash
      simp only [not_or, not_not] at clash
      exact unmet_of_search none (by simp) s member ⟨remembers, clash⟩

end Draft

namespace Registry

variable {r : Registry} {identity : Identity} {change : State → State}

/-- No two states can be confused. -/
def Distinct (r : Registry) (identity : Identity) : Prop :=
  r.states.Pairwise (State.Apart identity)

theorem Distinct.push (distinct : r.Distinct identity) {name : String} {kind : Kind} {owner : Scope}
    (fresh : ∀ s ∈ r.states, s.Apart identity (State.blank (r.lastId + 1) name kind owner)) :
    (r.push name kind owner).Distinct identity := by
  unfold Distinct
  rw [push_states, List.pairwise_append]
  refine ⟨distinct, List.pairwise_singleton _ _, ?_⟩
  intro s member t last
  rw [List.mem_singleton.mp last]
  exact fresh s member

theorem Distinct.modify (distinct : r.Distinct identity) (numbered : r.Numbered) (id : StateId)
    (grows : ∀ s : State, s.Grows (change s)) : (r.modify id change).Distinct identity := by
  unfold Distinct
  rw [numbered.modify_states, List.pairwise_map]
  exact distinct.imp fun apart => apart.of_grows (.reach grows id _) (.reach grows id _)

end Registry

namespace Reading

variable {o : Options} {r next : Reading}

/-- Every move keeps states apart. -/
theorem Move.distinct {listed : Option Transition} (move : Move o listed r next)
    (numbered : r.draft.registry.Numbered) (distinct : r.draft.registry.Distinct o.identity) :
    next.draft.registry.Distinct o.identity := by
  cases move with
  | bind | report | enter | leave => exact distinct
  | create stereotype missing =>
    exact distinct.push fun s member => Draft.apart_of_missing missing stereotype _ member
  | annotate => exact distinct.modify numbered _ fun s => .annotate s _ _
  | connect =>
    rw [addTransition_eq]
    exact distinct.modify numbered _ fun s => .addTransition s _

theorem Moves.distinct (moves : Moves o r next) (numbered : r.draft.registry.Numbered)
    (distinct : r.draft.registry.Distinct o.identity) :
    next.draft.registry.Distinct o.identity := by
  have both : next.draft.registry.Numbered ∧ next.draft.registry.Distinct o.identity := by
    apply moves.preserves
    · rintro _ _ _ move ⟨numbered, distinct⟩
      exact ⟨move.numbered numbered, move.distinct numbered distinct⟩
    · exact ⟨numbered, distinct⟩
  exact both.2

end Reading

/-- No two states of a diagram share a plain name; where names count along the enclosing scopes only,
no two states of one scope do. Under either rule, no two histories of one scope share their name. -/
theorem names_distinguish {o : Options} {text : String} {a : Analysis} (read : analyze o text = .ok a) :
    (o.identity = .global → a.states.Pairwise fun s t =>
      s.PlainlyNamed → t.PlainlyNamed → s.name ≠ t.name) ∧
    (o.identity = .lexical → a.states.Pairwise fun s t =>
      s.PlainlyNamed → t.PlainlyNamed → s.name ≠ t.name ∨ s.owner ≠ t.owner) ∧
    a.states.Pairwise fun s t =>
      s.kind = .history → t.kind = .history → s.name ≠ t.name ∨ s.owner ≠ t.owner := by
  obtain ⟨r, ran, rfl⟩ := analyze_eq_ok_iff.mp read
  have distinct : r.draft.registry.Distinct o.identity :=
    (Reading.run_moves ran).distinct (Registry.numbered_empty _) .nil
  refine ⟨?_, ?_, distinct.imp fun apart => apart.history⟩
  · intro global
    refine distinct.imp fun apart plain plainToo => ?_
    rcases apart.plain plain plainToo with names | ⟨lexical, -⟩
    · exact names
    · rw [global] at lexical
      cases lexical
  · intro lexical
    refine distinct.imp fun apart plain plainToo => ?_
    exact (apart.plain plain plainToo).imp_right And.right

/-- A state and a history in a scope, and others of the same names outside of it. -/
def sameNamed : String :=
  "state A \x7b\nX --> [H]\n\x7d\nX --> A[H]\n[H] --> X[H]"

theorem names_distinguish_sameNamed :
    ∃ a, analyze { identity := .lexical } sameNamed = .ok a ∧
      a.states.map (fun s => (s.name, s.owner)) = [("A", .root), ("X", .state 1), ("[H]", .state 1),
        ("X", .root), ("[H]", .root), ("[H]", .state 4)] ∧
      (a.states.Pairwise fun s t =>
        s.PlainlyNamed → t.PlainlyNamed → s.name ≠ t.name ∨ s.owner ≠ t.owner) ∧
      a.states.Pairwise fun s t =>
        s.kind = .history → t.kind = .history → s.name ≠ t.name ∨ s.owner ≠ t.owner := by
  obtain ⟨a, read, names⟩ : ∃ a, analyze { identity := .lexical } sameNamed = .ok a ∧
      a.states.map (fun s => (s.name, s.owner)) = [("A", .root), ("X", .state 1), ("[H]", .state 1),
        ("X", .root), ("[H]", .root), ("[H]", .state 4)] := ⟨_, by cbv, by cbv⟩
  obtain ⟨-, plain, histories⟩ := names_distinguish read
  exact ⟨a, read, names, plain rfl, histories⟩

end Statechart
