import Mathlib.Logic.Relation
import Statechart.Proofs.Registry
import Statechart.Analysis

/-! What a line can do to a diagram. What its reading comes to is said once, with a case or two for each
kind of line. Whatever its kind, a line that is read makes a few small moves, and each move changes one
thing: a free nickname is bound, a problem is reported, a missing state is created, a known state gets a
text or a transition, a scope is entered or left. A property that every move keeps holds of everything
that is ever read. Only a line that is a transition lists one, and it lists exactly one. -/
namespace Statechart

/-- Whether a line is a transition. -/
def Line.isTransition : Line → Bool
  | transition .. => true
  | _ => false

variable {ε α β : Type}

theorem bind_eq_ok_iff {x : Except ε α} {f : α → Except ε β} {b : β} :
    x >>= f = .ok b ↔ ∃ a, x = .ok a ∧ f a = .ok b := by
  cases x with
  | error e =>
    constructor
    · intro ran
      cases ran
    · rintro ⟨a, first, -⟩
      cases first
  | ok a =>
    constructor
    · intro ran
      exact ⟨a, rfl, ran⟩
    · rintro ⟨_, first, rest⟩
      cases first
      exact rest

theorem bind_eq_error_iff {x : Except ε α} {f : α → Except ε β} {e : ε} :
    x >>= f = .error e ↔ x = .error e ∨ ∃ a, x = .ok a ∧ f a = .error e := by
  cases x with
  | error other =>
    constructor
    · intro ran
      cases ran
      exact .inl rfl
    · rintro (first | ⟨a, first, -⟩)
      · cases first
        rfl
      · cases first
  | ok a =>
    constructor
    · intro ran
      exact .inr ⟨a, rfl, ran⟩
    · rintro (first | ⟨_, first, rest⟩)
      · cases first
      · cases first
        exact rest

namespace Draft

variable {d next : Draft} {identity : Identity} {raw : String} {role : Role} {id : StateId}
  {place : Placement}

/-- A search that finds something finds a state of the registry. -/
theorem findPlain?_mem {name : String} (found : d.findPlain? identity name = some s) :
    s ∈ d.registry.states := by
  cases identity with
  | global => exact List.mem_of_find?_eq_some found
  | lexical =>
    obtain ⟨scope, -, hit⟩ := List.exists_of_findSome?_eq_some found
    exact List.mem_of_find?_eq_some hit

theorem ofSearch_eq_found_iff {hit : Option State} {name : String} {kind : Kind} {owner : Scope} :
    Resolution.ofSearch hit name kind owner = .found id ↔ ∃ s, hit = some s ∧ s.id = id := by
  cases hit <;> simp [Resolution.ofSearch]

theorem ofSearch_eq_missing_iff {hit : Option State} {name : String} {kind : Kind} {owner : Scope}
    {place : Placement} : Resolution.ofSearch hit name kind owner = .missing place ↔
      hit = none ∧ place = { name, kind, owner } := by
  cases hit <;> simp [Resolution.ofSearch, eq_comm]

/-- Whatever a name is, resolving it is one search among the states of the registry. If that fails,
the missing state belongs to the innermost scope or to a state that was found on the way. -/
theorem resolve_eq_ofSearch (d : Draft) (identity : Identity) (raw : String) (role : Role) :
    ∃ hit name kind owner,
      d.resolve identity raw role = .ofSearch hit name kind owner ∧
      (∀ s, hit = some s → s ∈ d.registry.states) ∧
      (owner = d.nesting.scope ∨ ∃ s ∈ d.registry.states, owner = .state s.id) := by
  unfold resolve
  dsimp only
  split
  · refine ⟨_, _, _, _, rfl, ?_, .inl rfl⟩
    intro s hit
    have member : s ∈ d.registry.initialsIn d.nesting.scope := by
      cases role <;> exact List.mem_of_getElem? hit
    exact (List.mem_filter.mp member).1
  · unfold resolveHistory
    split
    · exact ⟨_, _, _, _, rfl, fun s hit => List.mem_of_find?_eq_some hit, .inl rfl⟩
    · split
      · rename_i owner known
        exact ⟨_, _, _, _, rfl, fun s hit => List.mem_of_find?_eq_some hit,
          .inr ⟨owner, findPlain?_mem known, rfl⟩⟩
      · exact ⟨_, _, _, _, rfl, fun s hit => List.mem_of_find?_eq_some hit, .inl rfl⟩
  · exact ⟨_, _, _, _, rfl, fun s hit => findPlain?_mem hit, .inl rfl⟩

/-- A name refers to states of the registry only. -/
theorem known_of_resolve (found : d.resolve identity raw role = .found id) :
    d.registry.Known id := by
  obtain ⟨hit, name, kind, owner, searched, inside, -⟩ := d.resolve_eq_ofSearch identity raw role
  obtain ⟨s, hitIs, named⟩ := ofSearch_eq_found_iff.mp (searched.symm.trans found)
  exact ⟨s, inside s hitIs, named⟩

/-- A missing state belongs to the innermost scope or to a state of the registry. -/
theorem owner_of_resolve (missing : d.resolve identity raw role = .missing place) :
    place.owner = d.nesting.scope ∨ ∃ s ∈ d.registry.states, place.owner = .state s.id := by
  obtain ⟨hit, name, kind, owner, searched, -, owned⟩ := d.resolve_eq_ofSearch identity raw role
  obtain ⟨-, rfl⟩ := ofSearch_eq_missing_iff.mp (searched.symm.trans missing)
  exact owned

/-- The draft with one more state. -/
def push (d : Draft) (name : String) (kind : Kind) (owner : Scope) : Draft :=
  { d with registry := d.registry.push name kind owner }

/-- A name is obtained by finding its state or by creating it; nothing else happens. -/
theorem obtain_eq_ok_iff {kind : Option Kind} :
    d.obtain identity raw role kind = .ok (id, next) ↔
      (d.resolve identity raw role = .found id ∧ next = d) ∨
      ∃ place, d.resolve identity raw role = .missing place ∧
        d.registry.lastId < StateId.max ∧ id = d.registry.lastId + 1 ∧
        next = d.push place.name (kind.getD place.kind) place.owner := by
  unfold obtain
  cases d.resolve identity raw role with
  | found there => simp [eq_comm]
  | missing place =>
    simp only [Registry.create_eq]
    by_cases left : d.registry.lastId < StateId.max
    · simp [left, push, eq_comm]
    · simp [left]

/-- A name cannot be obtained only if its state is missing and no number is left for it. -/
theorem obtain_eq_error_iff {kind : Option Kind} {issue : Issue} :
    d.obtain identity raw role kind = .error issue ↔
      ∃ place, d.resolve identity raw role = .missing place ∧
        StateId.max ≤ d.registry.lastId ∧ issue = .identifierOverflow d.registry.lastId := by
  unfold obtain
  cases d.resolve identity raw role with
  | found there => simp
  | missing place =>
    simp only [Registry.create_eq]
    by_cases left : d.registry.lastId < StateId.max
    · simp [left, Nat.not_le.mpr left]
    · simp [left, Nat.not_lt.mp left, eq_comm]

end Draft

namespace Reading

variable {o : Options} {r next : Reading} {number : Nat} {raw : String} {role : Role}
  {kind : Option Kind} {id : StateId} {line : Line} {d : Diagnostic}

/-- The reading with one more state. -/
def push (r : Reading) (name : String) (kind : Kind) (owner : Scope) : Reading :=
  { r with draft := r.draft.push name kind owner }

/-- The reading with one more nickname. -/
def bindNickname (r : Reading) (fullName nickname : String) : Reading :=
  { r with draft := { r.draft with nicknames := ⟨(nickname, fullName) :: r.draft.nicknames.entries⟩ } }

/-- The reading with the state of a number changed. -/
def modify (r : Reading) (id : StateId) (change : State → State) : Reading :=
  { r with draft := { r.draft with registry := r.draft.registry.modify id change } }

theorem addTransition_eq (r : Reading) (t : Transition) :
    r.addTransition t = r.modify t.source (·.addTransition t) := by
  unfold addTransition modify
  rw [Registry.addTransition?_getD]

theorem obtain_eq_ok_iff :
    r.obtain o number raw role kind = .ok (id, next) ↔
      (r.draft.resolve o.identity raw role = .found id ∧ next = r) ∨
      ∃ place, r.draft.resolve o.identity raw role = .missing place ∧
        r.draft.registry.lastId < StateId.max ∧ id = r.draft.registry.lastId + 1 ∧
        next = r.push place.name (kind.getD place.kind) place.owner := by
  have split : r.obtain o number raw role kind = .ok (id, next) ↔
      ∃ d, r.draft.obtain o.identity raw role kind = .ok (id, d) ∧ next = { r with draft := d } := by
    unfold obtain
    cases r.draft.obtain o.identity raw role kind with
    | error issue => simp
    | ok result => simp [Prod.ext_iff, eq_comm, and_assoc]
  simp only [split, Draft.obtain_eq_ok_iff]
  constructor
  · rintro ⟨d, ⟨found, rfl⟩ | ⟨place, missing, left, named, rfl⟩, rfl⟩
    · exact .inl ⟨found, rfl⟩
    · exact .inr ⟨place, missing, left, named, rfl⟩
  · rintro (⟨found, rfl⟩ | ⟨place, missing, left, named, rfl⟩)
    · exact ⟨_, .inl ⟨found, rfl⟩, rfl⟩
    · exact ⟨_, .inr ⟨place, missing, left, named, rfl⟩, rfl⟩

theorem obtain_eq_error_iff :
    r.obtain o number raw role kind = .error d ↔
      ∃ place, r.draft.resolve o.identity raw role = .missing place ∧
        StateId.max ≤ r.draft.registry.lastId ∧
        d = { line := number, issue := .identifierOverflow r.draft.registry.lastId } := by
  have split : r.obtain o number raw role kind = .error d ↔
      ∃ issue, r.draft.obtain o.identity raw role kind = .error issue ∧
        d = { line := number, issue } := by
    unfold obtain
    cases r.draft.obtain o.identity raw role kind with
    | error issue => simp [eq_comm]
    | ok result => simp
  simp only [split, Draft.obtain_eq_error_iff]
  constructor
  · rintro ⟨issue, ⟨place, missing, full, rfl⟩, rfl⟩
    exact ⟨place, missing, full, rfl⟩
  · rintro ⟨place, missing, full, rfl⟩
    exact ⟨_, ⟨place, missing, full, rfl⟩, rfl⟩

/-- Introducing a nickname binds it, or repeats a binding, or reports a conflict. -/
theorem introduce_cases (r : Reading) (number : Nat) (fullName nickname : String) :
    (r.draft.nicknames.get? nickname = none ∧
      r.introduce number fullName nickname = (true, r.bindNickname fullName nickname)) ∨
    (r.draft.nicknames.get? nickname = some fullName ∧
      r.introduce number fullName nickname = (true, r)) ∨
    ∃ existing, r.draft.nicknames.get? nickname = some existing ∧ existing ≠ fullName ∧
      r.introduce number fullName nickname =
        (false, r.report number (.aliasConflict nickname existing fullName)) := by
  unfold introduce Nicknames.introduce
  cases bound : r.draft.nicknames.get? nickname with
  | none => exact .inl ⟨rfl, rfl⟩
  | some existing =>
    by_cases same : existing = fullName
    · subst same
      exact .inr (.inl ⟨rfl, by simp⟩)
    · exact .inr (.inr ⟨existing, rfl, same, by simp [same]⟩)

/-- What the reading of a line comes to. The names on it are obtained one after the other, with a nickname
introduced before the name that it is for, and then the line does what it is there for. -/
inductive Reads (o : Options) (r : Reading) (number : Nat) : Line → Reading → Prop where
  | composite {name : String} {id : StateId} {between : Reading}
      (obtained : r.obtain o number name .declaration none = .ok (id, between)) :
      Reads o r number (.composite name none) (between.enter id)
  /-- A composite state is entered whether its nickname is in conflict or not. -/
  | compositeAliased {name nickname : String} {id : StateId} {between : Reading}
      (obtained : (r.introduce number name nickname).2.obtain o number name .declaration none =
        .ok (id, between)) :
      Reads o r number (.composite name (some nickname)) (between.enter id)
  | close : Reads o r number .close r.leave
  | aliased {name nickname : String} {stereotype : Option String} {id : StateId} {next : Reading}
      (agrees : (r.introduce number name nickname).1 = true)
      (obtained : (r.introduce number name nickname).2.obtain o number name .declaration
        (stereotype.map Kind.ofStereotype) = .ok (id, next)) :
      Reads o r number (.aliased name nickname stereotype) next
  /-- A nickname in conflict is reported, and nothing else happens. -/
  | refused {name nickname : String} {stereotype : Option String}
      (conflicts : (r.introduce number name nickname).1 = false) :
      Reads o r number (.aliased name nickname stereotype) (r.introduce number name nickname).2
  | stereotyped {name stereotype : String} {id : StateId} {next : Reading}
      (obtained : r.obtain o number name .declaration (some (Kind.ofStereotype stereotype)) =
        .ok (id, next)) :
      Reads o r number (.stereotyped name stereotype) next
  | simple {name : String} {id : StateId} {next : Reading}
      (obtained : r.obtain o number name .declaration none = .ok (id, next)) :
      Reads o r number (.simple name none) next
  | described {name text : String} {id : StateId} {between : Reading}
      (obtained : r.obtain o number name .declaration none = .ok (id, between)) :
      Reads o r number (.simple name (some text)) (between.annotate o id text)
  | transition {source target : String} {event : Option String} {leaving entering : StateId}
      {left both : Reading} (obtainedSource : r.obtain o number source .source none = .ok (leaving, left))
      (obtainedTarget : left.obtain o number target .target none = .ok (entering, both)) :
      Reads o r number (.transition source target event) (both.addTransition ⟨leaving, entering, event⟩)
  | content {name text : String} {id : StateId}
      (found : r.draft.resolve o.identity name .declaration = .found id) :
      Reads o r number (.content name text) (r.annotate o id text)
  /-- A text for nothing is reported, unless reading ends with it. -/
  | unresolved {name text : String} {place : Placement}
      (missing : r.draft.resolve o.identity name .declaration = .missing place)
      (policy : o.onUnresolved = .skip) :
      Reads o r number (.content name text) (r.report number (.unresolvedReference name))
  | ignored : Reads o r number .ignored r

theorem step_reads (ran : r.step o number line = .ok next) : r.Reads o number line next := by
  cases line with
  | composite name nickname =>
    cases nickname with
    | none =>
      obtain ⟨⟨id, between⟩, obtained, rest⟩ := bind_eq_ok_iff.mp ran
      cases rest
      exact .composite obtained
    | some nickname =>
      obtain ⟨⟨id, between⟩, obtained, rest⟩ := bind_eq_ok_iff.mp ran
      cases rest
      exact .compositeAliased obtained
  | close =>
    cases ran
    exact .close
  | aliased name nickname stereotype =>
    cases introduced : r.introduce number name nickname with
    | mk agrees between =>
      simp only [step, introduced] at ran
      cases agrees with
      | true =>
        obtain ⟨⟨id, named⟩, obtained, rest⟩ := bind_eq_ok_iff.mp ran
        cases rest
        exact .aliased (by rw [introduced]) (by rw [introduced, obtained])
      | false =>
        cases ran
        have refused : r.Reads o number (.aliased name nickname stereotype) _ := .refused (by rw [introduced])
        rwa [introduced] at refused
  | stereotyped name stereotype =>
    obtain ⟨⟨id, named⟩, obtained, rest⟩ := bind_eq_ok_iff.mp ran
    cases rest
    exact .stereotyped obtained
  | simple name content =>
    obtain ⟨⟨id, named⟩, obtained, rest⟩ := bind_eq_ok_iff.mp ran
    cases content with
    | none =>
      cases rest
      exact .simple obtained
    | some text =>
      cases rest
      exact .described obtained
  | transition source target event =>
    obtain ⟨⟨leaving, left⟩, obtainedSource, rest⟩ := bind_eq_ok_iff.mp ran
    obtain ⟨⟨entering, both⟩, obtainedTarget, rest⟩ := bind_eq_ok_iff.mp rest
    cases rest
    exact .transition obtainedSource obtainedTarget
  | content name text =>
    simp only [step] at ran
    cases resolved : r.draft.resolve o.identity name .declaration with
    | found id =>
      rw [resolved] at ran
      cases ran
      exact .content resolved
    | missing place =>
      rw [resolved] at ran
      cases policy : o.onUnresolved with
      | abort =>
        simp only [Resolution.id?, policy] at ran
        cases ran
      | skip =>
        simp only [Resolution.id?, policy] at ran
        cases ran
        exact .unresolved resolved policy
  | ignored =>
    cases ran
    exact .ignored

/-- One change that a line may make, with the transition that it lists, if it lists one. -/
inductive Move (o : Options) : Option Transition → Reading → Reading → Prop where
  /-- A nickname that stood for nothing is bound. -/
  | bind {r : Reading} {fullName nickname : String}
      (free : r.draft.nicknames.get? nickname = none) :
      Move o none r (r.bindNickname fullName nickname)
  /-- A problem is reported. -/
  | report {r : Reading} {number : Nat} {issue : Issue} : Move o none r (r.report number issue)
  /-- A name is missing, and the state it asks for is created. Only a declaration can bring a
  stereotype. -/
  | create {r : Reading} {raw : String} {role : Role} {place : Placement} (stereotype : Option String)
      (missing : r.draft.resolve o.identity raw role = .missing place)
      (left : r.draft.registry.lastId < StateId.max)
      (declared : stereotype ≠ none → role = .declaration) :
      Move o none r
        (r.push place.name ((stereotype.map Kind.ofStereotype).getD place.kind) place.owner)
  /-- A text is attached to a known state. -/
  | annotate {r : Reading} {id : StateId} {text : String} (known : r.draft.registry.Known id) :
      Move o none r (r.annotate o id text)
  /-- A transition between known states is listed. -/
  | connect {r : Reading} {t : Transition} (source : r.draft.registry.Known t.source)
      (target : r.draft.registry.Known t.target) : Move o (some t) r (r.addTransition t)
  /-- A known state is entered. -/
  | enter {r : Reading} {id : StateId} (known : r.draft.registry.Known id) :
      Move o none r (r.enter id)
  /-- The innermost scope is left. -/
  | leave {r : Reading} : Move o none r r.leave

/-- Any number of moves. -/
abbrev Moves (o : Options) : Reading → Reading → Prop :=
  Relation.ReflTransGen fun r next => ∃ listed, Move o listed r next

/-- Any number of moves that list no transition. -/
abbrev SilentMoves (o : Options) : Reading → Reading → Prop :=
  Relation.ReflTransGen (Move o none)

theorem SilentMoves.moves (silent : SilentMoves o r next) : Moves o r next := by
  induction silent with
  | refl => exact .refl
  | tail _ move ih => exact ih.tail ⟨none, move⟩

/-- Read here, a line writes a transition: its names are obtained, the source before the target, and
after that both are there. -/
def Writes (o : Options) (r : Reading) (line : Line) (number : Nat) (t : Transition)
    (both : Reading) : Prop :=
  ∃ source target between, line = .transition source target t.event ∧
    r.obtain o number source .source none = .ok (t.source, between) ∧
    between.obtain o number target .target none = .ok (t.target, both)

theorem introduce_moves (r : Reading) (number : Nat) (fullName nickname : String) :
    SilentMoves o r (r.introduce number fullName nickname).2 := by
  obtain ⟨free, result⟩ | ⟨-, result⟩ | ⟨existing, -, -, result⟩ :=
    r.introduce_cases number fullName nickname
  · rw [result]
    exact .single (.bind free)
  · rw [result]
  · rw [result]
    exact .single .report

theorem obtain_moves (stereotype : Option String) (declared : stereotype ≠ none → role = .declaration)
    (ran : r.obtain o number raw role (stereotype.map Kind.ofStereotype) = .ok (id, next)) :
    SilentMoves o r next ∧ next.draft.registry.Known id := by
  rcases obtain_eq_ok_iff.mp ran with ⟨found, rfl⟩ | ⟨place, missing, left, rfl, rfl⟩
  · exact ⟨.refl, Draft.known_of_resolve found⟩
  · exact ⟨.single (.create stereotype missing left declared), _, List.mem_concat_self, rfl⟩

/-- Obtaining a name leaves the states known that were known before. -/
theorem obtain_known {other : StateId} (known : r.draft.registry.Known other)
    (ran : r.obtain o number raw role kind = .ok (id, next)) : next.draft.registry.Known other := by
  rcases obtain_eq_ok_iff.mp ran with ⟨-, rfl⟩ | ⟨place, -, -, -, rfl⟩
  · exact known
  · exact known.push ..

/-- Reading fails because no number is left for a state that is asked for. -/
def RunsOut (o : Options) (r : Reading) (number : Nat) (d : Diagnostic) : Prop :=
  ∃ between, SilentMoves o r between ∧ StateId.max ≤ between.draft.registry.lastId ∧
    d = { line := number, issue := .identifierOverflow between.draft.registry.lastId }

private theorem obtain_runsOut {between : Reading} (reached : SilentMoves o r between)
    (failed : between.obtain o number raw role kind = .error d) : RunsOut o r number d := by
  obtain ⟨place, -, full, rfl⟩ := obtain_eq_error_iff.mp failed
  exact ⟨between, reached, full, rfl⟩

private theorem composite_runsOut {between : Reading} {name : String}
    (introduced : SilentMoves o r between)
    (ran : (do
      let (id, r) ← between.obtain o number name .declaration none
      return r.enter id) = Except.error d) : RunsOut o r number d := by
  rcases bind_eq_error_iff.mp ran with failed | ⟨_, -, rest⟩
  · exact obtain_runsOut introduced failed
  · cases rest

theorem Writes.silentMoves {t : Transition} {both : Reading} (writes : r.Writes o line number t both) :
    SilentMoves o r both ∧ both.draft.registry.Known t.source ∧
      both.draft.registry.Known t.target := by
  obtain ⟨source, target, between, -, obtainedSource, obtainedTarget⟩ := writes
  obtain ⟨first, knownSource⟩ := obtain_moves none (by simp) obtainedSource
  obtain ⟨second, knownTarget⟩ := obtain_moves none (by simp) obtainedTarget
  exact ⟨first.trans second, obtain_known knownSource obtainedTarget, knownTarget⟩

/-- A transition is read by writing it and listing what was written. -/
theorem step_transition (transition : line.isTransition) (ran : r.step o number line = .ok next) :
    ∃ t both, r.Writes o line number t both ∧ next = both.addTransition t := by
  cases step_reads ran with
  | @transition source target event leaving entering left both obtainedSource obtainedTarget =>
    exact ⟨⟨leaving, entering, event⟩, both, ⟨_, _, left, rfl, obtainedSource, obtainedTarget⟩, rfl⟩
  | _ => cases transition

theorem Writes.step_eq {t : Transition} {both : Reading} (writes : r.Writes o line number t both) :
    r.step o number line = .ok (both.addTransition t) := by
  obtain ⟨source, target, between, rfl, obtainedSource, obtainedTarget⟩ := writes
  refine bind_eq_ok_iff.mpr ⟨(t.source, between), obtainedSource, ?_⟩
  exact bind_eq_ok_iff.mpr ⟨(t.target, both), obtainedTarget, rfl⟩

/-- Any other line is read without listing a transition. -/
theorem step_silentMoves (other : ¬ line.isTransition) (ran : r.step o number line = .ok next) :
    SilentMoves o r next := by
  cases step_reads ran with
  | composite obtained =>
    obtain ⟨moves, known⟩ := obtain_moves none (by simp) obtained
    exact moves.tail (.enter known)
  | compositeAliased obtained =>
    obtain ⟨moves, known⟩ := obtain_moves none (by simp) obtained
    exact ((r.introduce_moves number _ _).trans moves).tail (.enter known)
  | close => exact .single .leave
  | aliased agrees obtained =>
    exact (r.introduce_moves number _ _).trans (obtain_moves _ (fun _ => rfl) obtained).1
  | refused => exact r.introduce_moves number _ _
  | @stereotyped name stereotype id next obtained =>
    exact (obtain_moves (some stereotype) (fun _ => rfl) obtained).1
  | simple obtained => exact (obtain_moves none (by simp) obtained).1
  | described obtained =>
    obtain ⟨moves, known⟩ := obtain_moves none (by simp) obtained
    exact moves.tail (.annotate known)
  | transition => exact absurd rfl other
  | content found => exact .single (.annotate (Draft.known_of_resolve found))
  | unresolved => exact .single .report
  | ignored => exact .refl

/-- Whatever a line does, it does by moves. -/
theorem step_moves (ran : r.step o number line = .ok next) : Moves o r next := by
  by_cases transition : line.isTransition
  · obtain ⟨t, both, writes, rfl⟩ := step_transition transition ran
    obtain ⟨silent, source, target⟩ := writes.silentMoves
    exact silent.moves.tail ⟨some t, .connect source target⟩
  · exact (step_silentMoves transition ran).moves

/-- A line fails for one of two reasons: no number is left for a state that it asks for, or it is a
text for a name that refers to nothing. -/
theorem step_error (ran : r.step o number line = .error d) :
    RunsOut o r number d ∨
    ∃ name text, line = .content name text ∧ o.onUnresolved = .abort ∧
      (r.draft.resolve o.identity name .declaration).id? = none ∧
      d = { line := number, issue := .unresolvedReference name } := by
  cases line with
  | composite name nickname =>
    left
    cases nickname with
    | none => exact composite_runsOut .refl ran
    | some nickname => exact composite_runsOut (r.introduce_moves number name nickname) ran
  | aliased name nickname stereotype =>
    left
    have introduced : SilentMoves o r _ := r.introduce_moves number name nickname
    simp only [step] at ran
    split at ran
    · rename_i between result
      rw [result] at introduced
      rcases bind_eq_error_iff.mp ran with failed | ⟨_, -, rest⟩
      · exact obtain_runsOut introduced failed
      · cases rest
    · cases ran
  | stereotyped name stereotype =>
    left
    rcases bind_eq_error_iff.mp ran with failed | ⟨_, -, rest⟩
    · exact obtain_runsOut .refl failed
    · cases rest
  | simple name content =>
    left
    rcases bind_eq_error_iff.mp ran with failed | ⟨_, -, rest⟩
    · exact obtain_runsOut .refl failed
    · cases content <;> cases rest
  | close => cases ran
  | transition source target event =>
    left
    rcases bind_eq_error_iff.mp ran with failed | ⟨⟨id, between⟩, obtained, rest⟩
    · exact obtain_runsOut .refl failed
    · rcases bind_eq_error_iff.mp rest with failed | ⟨_, -, rest⟩
      · exact obtain_runsOut (obtain_moves none (by simp) obtained).1 failed
      · cases rest
  | content name text =>
    right
    simp only [step] at ran
    split at ran
    · cases ran
    · rename_i unknown
      split at ran
      · rename_i policy
        cases ran
        exact ⟨name, text, rfl, policy, unknown, rfl⟩
      · cases ran
  | ignored => cases ran

/-- A failure is blamed on the line that failed. -/
theorem step_error_line (ran : r.step o number line = .error d) : d.line = number := by
  rcases step_error ran with ⟨_, -, -, rfl⟩ | ⟨_, _, -, -, -, rfl⟩ <;> rfl

/-- The number below the first one never changes. -/
theorem Move.startingId_eq {listed : Option Transition} (move : Move o listed r next) :
    next.draft.registry.startingId = r.draft.registry.startingId := by
  cases move with
  | bind | report | create | enter | leave => rfl
  | annotate => exact Registry.modify_startingId _ _ _
  | connect =>
    rw [addTransition_eq]
    exact Registry.modify_startingId _ _ _

/-- What no move takes away is still there after any number of them. -/
theorem Moves.preserves {P : Reading → Prop} (moves : Moves o r next)
    (kept : ∀ {listed : Option Transition} {before after : Reading},
      Move o listed before after → P before → P after)
    (holds : P r) : P next := by
  induction moves with
  | refl => exact holds
  | tail _ move ih =>
    obtain ⟨_, move⟩ := move
    exact kept move ih

theorem Moves.startingId_eq (moves : Moves o r next) :
    next.draft.registry.startingId = r.draft.registry.startingId :=
  moves.preserves (fun move same => move.startingId_eq.trans same) rfl

/-- States are numbered as they come, and nothing renumbers them. -/
theorem Move.numbered {listed : Option Transition} (move : Move o listed r next)
    (numbered : r.draft.registry.Numbered) : next.draft.registry.Numbered := by
  cases move with
  | bind | report | enter | leave => exact numbered
  | create => exact numbered.push _ _ _
  | annotate => exact numbered.modify _ fun _ => rfl
  | connect =>
    rw [addTransition_eq]
    exact numbered.modify _ fun _ => rfl

theorem Moves.numbered (moves : Moves o r next) (numbered : r.draft.registry.Numbered) :
    next.draft.registry.Numbered :=
  moves.preserves Move.numbered numbered

/-! Many lines are read one after the other. -/

theorem run_append (o : Options) (r : Reading) (earlier later : List (Line × Nat)) :
    run o r (earlier ++ later) = run o r earlier >>= fun r => run o r later :=
  List.foldlM_append

theorem run_cons (o : Options) (r : Reading) (line : Line) (number : Nat)
    (later : List (Line × Nat)) :
    run o r ((line, number) :: later) = r.step o number line >>= fun r => run o r later :=
  List.foldlM_cons

theorem run_concat (o : Options) (r : Reading) (lines : List (Line × Nat)) (line : Line)
    (number : Nat) :
    run o r (lines ++ [(line, number)]) = run o r lines >>= fun r => r.step o number line := by
  rw [run_append]
  refine congrArg (run o r lines >>= ·) (funext fun between => ?_)
  rw [run_cons]
  exact bind_pure _

/-- Past a line that was read, reading goes on from what that line made of the diagram. -/
theorem run_split {before after : Reading} {earlier : List (Line × Nat)}
    (ran : run o r earlier = .ok before) (stepped : before.step o number line = .ok after)
    (later : List (Line × Nat)) :
    run o r (earlier ++ (line, number) :: later) = run o after later := by
  rw [run_append, ran]
  show run o before ((line, number) :: later) = run o after later
  rw [run_cons, stepped]
  rfl

/-- What each of the lines keeps, all of them keep. -/
theorem run_preserves {P : Reading → Prop} {lines : List (Line × Nat)} (ran : run o r lines = .ok next)
    (kept : ∀ entry ∈ lines, ∀ before after, before.step o entry.2 entry.1 = .ok after →
      P before → P after) (holds : P r) : P next := by
  induction lines generalizing r with
  | nil =>
    cases ran
    exact holds
  | cons entry later ih =>
    obtain ⟨between, first, rest⟩ := bind_eq_ok_iff.mp ran
    obtain ⟨here, there⟩ := List.forall_mem_cons.mp kept
    exact ih rest there (here r between first holds)

/-- Whatever a diagram does, it does by moves. -/
theorem run_moves {lines : List (Line × Nat)} (ran : run o r lines = .ok next) : Moves o r next := by
  apply run_preserves ran
  · intro _ _ _ _ stepped moves
    exact moves.trans (step_moves stepped)
  · exact .refl

/-- A diagram fails at the first line that fails. -/
theorem run_error {lines : List (Line × Nat)} (ran : run o r lines = .error d) :
    ∃ earlier line number later between, lines = earlier ++ (line, number) :: later ∧
      run o r earlier = .ok between ∧ between.step o number line = .error d := by
  induction lines generalizing r with
  | nil => cases ran
  | cons entry later ih =>
    obtain ⟨line, number⟩ := entry
    rw [run_cons] at ran
    rcases bind_eq_error_iff.mp ran with failed | ⟨middle, first, rest⟩
    · exact ⟨[], line, number, later, r, rfl, rfl, failed⟩
    · obtain ⟨earlier, line', number', later', between, rfl, ranEarlier, failed⟩ := ih rest
      refine ⟨(line, number) :: earlier, line', number', later', between, rfl, ?_, failed⟩
      rw [run_cons]
      exact bind_eq_ok_iff.mpr ⟨middle, first, ranEarlier⟩

/-- A failure is blamed on one of the lines. -/
theorem run_error_line {lines : List (Line × Nat)} (ran : run o r lines = .error d) :
    ∃ entry ∈ lines, d.line = entry.2 := by
  obtain ⟨earlier, line, number, later, between, rfl, -, failed⟩ := run_error ran
  exact ⟨(line, number), by simp, step_error_line failed⟩

end Reading

variable {o : Options} {text : String}

theorem analyze_eq_ok_iff {a : Analysis} :
    analyze o text = .ok a ↔
      ∃ r, Reading.run o (.start o.startingId.toNat) (numberedLines text) = .ok r ∧
        a = r.toAnalysis := by
  unfold analyze
  rw [bind_eq_ok_iff]
  simp only [pure, Except.pure, Except.ok.injEq, eq_comm]

theorem analyze_eq_error_iff {d : Diagnostic} :
    analyze o text = .error d ↔
      Reading.run o (.start o.startingId.toNat) (numberedLines text) = .error d := by
  unfold analyze
  rw [bind_eq_error_iff]
  simp [pure, Except.pure]

end Statechart
