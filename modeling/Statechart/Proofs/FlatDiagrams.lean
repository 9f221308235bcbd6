import Mathlib
import Statechart.Proofs.Reports
import Statechart.Proofs.Requests

/-! Diagrams without composite states and nicknames. In such a diagram every line stands in the scope of
the diagram itself, and the only states that belong to another state are the histories of named owners.
No plain name and no owner of a history is ever looked up under the name of a history. So it makes no
difference whether names count everywhere or only along the enclosing scopes: either way the same states
are found, and where one is missing, the same one is created. -/
namespace Statechart

theorem bind_congr_of_ok {ε α β : Type} {x : Except ε α} {f g : α → Except ε β}
    (same : ∀ a, x = .ok a → f a = g a) : x >>= f = x >>= g := by
  cases x with
  | error e => rfl
  | ok a => exact same a rfl

namespace Draft

variable {d : Draft} {name raw written : String} {role : Role} {scope : Scope} {place : Placement}
  {q : Request}

/-- No composite state is open, there are no nicknames, and a state inside another one bears the name of
a history. -/
structure Flat (d : Draft) : Prop where
  unnamed : d.nicknames = .empty
  outside : d.nesting = .outermost
  inner : ∀ s ∈ d.registry.states, s.owner ≠ .root → Name.ofString s.name = .history none s.name

theorem flat_start (startingId : StateId) : (start startingId).Flat where
  unnamed := rfl
  outside := rfl
  inner _ member := absurd member List.not_mem_nil

/-- A name that is not that of a history finds only states of the diagram itself. -/
theorem Flat.findPlain?_eq (flat : d.Flat)
    (other : ∀ marker, Name.ofString name ≠ .history none marker) :
    d.findPlain? .lexical name = d.findPlain? .global name := by
  have agree : ∀ s ∈ d.registry.states,
      (s.name == name && s.owner == Scope.root) = (s.name == name) := by
    intro s member
    by_cases named : s.name = name
    · have top : s.owner = .root := by
        by_contra inside
        have read := flat.inner s member inside
        rw [named] at read
        exact other name read
      simp [named, top]
    · simp [named]
  have outward : d.nesting.outward = [.root] := by
    rw [flat.outside]
    rfl
  simp only [findPlain?, outward, List.findSome?_cons, List.findSome?_nil, Registry.findInScope?,
    Registry.findByName?]
  rw [List.find?_congr agree]
  cases d.registry.states.find? fun s => s.name == name <;> rfl

theorem Flat.request_eq (flat : d.Flat) (written : String) :
    d.request .lexical written = d.request .global written := by
  unfold request
  cases read : Name.ofString written with
  | initial | plain => rfl
  | history owner marker =>
    cases owner with
    | none => rfl
    | some owner =>
      have plain := Name.ofString_unbracketed (Name.unbracketed_of_history read)
      have full : d.nicknames.fullName owner = owner := by
        rw [flat.unnamed]
        rfl
      have other : ∀ marker, Name.ofString owner ≠ .history none marker := by
        intro marker clash
        cases plain.symm.trans clash
      dsimp only
      rw [full, flat.findPlain?_eq other]

theorem Flat.search_eq (flat : d.Flat) (readable : q.Readable) (role : Role) :
    d.search .lexical role q = d.search .global role q := by
  cases q with
  | initial | history => rfl
  | plain name =>
    apply flat.findPlain?_eq
    intro marker clash
    cases Eq.trans (Eq.symm readable) clash

/-- Either rule gives a name the same meaning. -/
theorem Flat.resolve_eq (flat : d.Flat) (raw : String) (role : Role) :
    d.resolve .lexical raw role = d.resolve .global raw role := by
  have readable := d.request_readable .global (d.fullName raw)
  rw [resolve_eq_answer, resolve_eq_answer, flat.request_eq, answer, answer,
    flat.search_eq readable]

/-- A history is asked for in the innermost scope, unless its name is a marker by itself. -/
theorem request_eq_history {identity : Identity}
    (asked : d.request identity written = .history name scope) :
    scope = d.nesting.scope ∨ Name.ofString name = .history none name := by
  unfold request at asked
  split at asked
  · cases asked
  · cases asked
    exact .inl rfl
  · rename_i owner marker read
    split at asked
    · cases asked
      exact .inr (Name.ofString_marker read)
    · cases asked
      exact .inl rfl
  · cases asked

theorem Flat.push (flat : d.Flat) {identity : Identity}
    (missing : d.resolve identity raw role = .missing place) (kind : Kind) :
    (d.push place.name kind place.owner).Flat where
  unnamed := flat.unnamed
  outside := flat.outside
  inner := by
    have outermost : d.nesting.scope = .root := by
      rw [flat.outside]
      rfl
    obtain ⟨-, rfl⟩ := resolve_eq_missing_iff.mp missing
    intro s member inside
    rw [Draft.push, Registry.push_states, List.mem_append, List.mem_singleton] at member
    rcases member with old | rfl
    · exact flat.inner s old inside
    · cases asked : d.request identity (d.fullName raw) with
      | initial | plain =>
        rw [asked] at inside
        exact absurd outermost inside
      | history name scope =>
        rw [asked] at inside
        rcases request_eq_history asked with innermost | marked
        · exact absurd (innermost.trans outermost) inside
        · exact marked

end Draft

namespace Reading

variable {o : Options} {r next : Reading} {line : Line} {number : Nat} {raw : String} {role : Role}
  {kind : Option Kind} {id : StateId}

theorem flat_obtain (flat : r.draft.Flat) (ran : r.obtain o number raw role kind = .ok (id, next)) :
    next.draft.Flat := by
  rcases obtain_eq_ok_iff.mp ran with ⟨-, rfl⟩ | ⟨place, missing, -, -, rfl⟩
  · exact flat
  · exact flat.push missing _

/-- What is said about a state changes neither its name nor its owner. -/
theorem flat_modify (flat : r.draft.Flat) {change : State → State}
    (kept : ∀ s, (change s).name = s.name ∧ (change s).owner = s.owner) (id : StateId) :
    (r.modify id change).draft.Flat where
  unnamed := flat.unnamed
  outside := flat.outside
  inner := by
    intro s member inside
    obtain ⟨before, there, rfl | rfl⟩ := Registry.exists_of_mem_modify member
    · exact flat.inner _ there inside
    · rw [(kept before).2] at inside
      rw [(kept before).1]
      exact flat.inner before there inside

theorem flat_annotate (flat : r.draft.Flat) (id : StateId) (text : String) :
    (r.annotate o id text).draft.Flat := by
  show (r.modify id fun s => s.annotate text o.separator).draft.Flat
  apply flat_modify flat
  intro s
  exact ⟨rfl, rfl⟩

theorem flat_addTransition (flat : r.draft.Flat) (t : Transition) :
    (r.addTransition t).draft.Flat := by
  rw [addTransition_eq]
  apply flat_modify flat
  intro s
  exact ⟨rfl, rfl⟩

/-- A line that opens no composite state and introduces no nickname leaves a diagram flat. -/
theorem flat_step (flat : r.draft.Flat) (opens : line.isComposite = false)
    (renames : line.isAliased = false) (ran : r.step o number line = .ok next) : next.draft.Flat := by
  cases step_reads ran with
  | composite | compositeAliased => cases opens
  | aliased | refused => cases renames
  | stereotyped obtained | simple obtained => exact flat_obtain flat obtained
  | described obtained => exact flat_annotate (flat_obtain flat obtained) _ _
  | close =>
    refine ⟨flat.unnamed, ?_, flat.inner⟩
    show r.draft.nesting.leave = .outermost
    rw [flat.outside]
    rfl
  | transition obtainedSource obtainedTarget =>
    exact flat_addTransition (flat_obtain (flat_obtain flat obtainedSource) obtainedTarget) _
  | content => exact flat_annotate flat _ _
  | unresolved | ignored => exact flat

theorem obtain_identity (flat : r.draft.Flat) (number : Nat) (raw : String) (role : Role)
    (kind : Option Kind) :
    r.obtain { o with identity := .lexical } number raw role kind =
      r.obtain { o with identity := .global } number raw role kind := by
  unfold obtain Draft.obtain
  rw [flat.resolve_eq]

/-- Such a line does the same under either rule. -/
theorem step_identity (flat : r.draft.Flat) (opens : line.isComposite = false)
    (renames : line.isAliased = false) (number : Nat) :
    r.step { o with identity := .lexical } number line =
      r.step { o with identity := .global } number line := by
  cases line with
  | composite => cases opens
  | aliased => cases renames
  | stereotyped => simp only [step, obtain_identity flat]
  | simple =>
    simp only [step, obtain_identity flat]
    rfl
  | close | ignored => rfl
  | transition source target event =>
    simp only [step, obtain_identity flat]
    apply bind_congr_of_ok
    rintro ⟨id, between⟩ obtained
    rw [obtain_identity (flat_obtain flat obtained)]
  | content name text =>
    simp only [step, flat.resolve_eq]
    rfl

/-- Any number of such lines do. -/
theorem run_identity {lines : List (Line × Nat)} (flat : r.draft.Flat)
    (plain : ∀ entry ∈ lines, entry.1.isComposite = false ∧ entry.1.isAliased = false) :
    run { o with identity := .lexical } r lines = run { o with identity := .global } r lines := by
  induction lines generalizing r with
  | nil => rfl
  | cons entry later ih =>
    obtain ⟨line, number⟩ := entry
    obtain ⟨⟨opens, renames⟩, plainLater⟩ := List.forall_mem_cons.mp plain
    rw [run_cons, run_cons, step_identity flat opens renames]
    exact bind_congr_of_ok fun between stepped =>
      ih (flat_step flat opens renames stepped) plainLater

end Reading

/-- Where no composite state is opened and no nickname is introduced, names mean the same everywhere and
along the enclosing scopes: the result is the same, or the failure is. -/
theorem analyze_identity_eq (o : Options) {text : String}
    (flat : ∀ entry ∈ numberedLines text, entry.1.isComposite = false ∧ entry.1.isAliased = false) :
    analyze { o with identity := .global } text = analyze { o with identity := .lexical } text := by
  have ran := Reading.run_identity (o := o) (r := .start o.startingId.toNat) (Draft.flat_start _) flat
  unfold analyze
  rw [ran]

/-- A history inside a state, asked for from its owner and by its marker alone, a stereotype for such a
history, and an owner that does not exist. -/
def flatHistories : String :=
  "A --> B\nA --> B[H]\nstate A[H*] <<fork>>\n[H] --> A[H*]\nC[H] --> B[H] : again\nB : late"

theorem analyze_identity_eq_remembered :
    ∃ a, analyze { identity := .global } flatHistories = .ok a ∧
      analyze { identity := .lexical } flatHistories = .ok a ∧
      a.states.map (fun s => (s.name, s.owner)) = [("A", .root), ("B", .root), ("[H]", .state 2),
        ("[H*]", .state 1), ("[H]", .root), ("[H*]", .state 1), ("C[H]", .root)] := by
  have flat : ∀ entry ∈ numberedLines flatHistories,
      entry.1.isComposite = false ∧ entry.1.isAliased = false := by decide +kernel
  have reads : ((analyze { identity := .global } flatHistories).toOption.map fun a =>
      a.states.map fun s => (s.name, s.owner)) = some [("A", .root), ("B", .root), ("[H]", .state 2),
        ("[H*]", .state 1), ("[H]", .root), ("[H*]", .state 1), ("C[H]", .root)] := by decide +kernel
  obtain ⟨a, there, states⟩ := Option.map_eq_some_iff.mp reads
  have read : analyze { identity := .global } flatHistories = .ok a := by
    cases shape : analyze { identity := .global } flatHistories with
    | error failure => simp [shape, Except.toOption] at there
    | ok b => simpa [shape, Except.toOption] using there
  exact ⟨a, read, (analyze_identity_eq {} flat).symm.trans read, states⟩

end Statechart
