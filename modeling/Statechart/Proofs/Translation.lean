import Statechart.Proofs.Growth

/-! Numbers carry no meaning. Reading a diagram above another starting number gives the same diagram
with every number raised by the same amount, line by line, until the numbers run out; and they run
out exactly on the line that asks for a number beyond the largest. -/
namespace Statechart

/-! Raising the numbers of everything that holds some. -/

/-- A composite state has its number raised; the diagram has none. -/
def Scope.shift (k : Nat) : Scope → Scope
  | root => root
  | state id => state (id + k)

/-- Both ends are raised. -/
def Transition.shift (k : Nat) (t : Transition) : Transition :=
  { t with source := t.source + k, target := t.target + k }

/-- The state, its owner and its transitions are raised. -/
def State.shift (k : Nat) (s : State) : State :=
  { s with
    id := s.id + k
    owner := s.owner.shift k
    transitions := s.transitions.map (·.shift k) }

/-- Every number that a diagram mentions is raised; names, kinds, contents, events and reports stay. -/
def Analysis.shift (k : Nat) (a : Analysis) : Analysis :=
  { a with states := a.states.map (·.shift k), lastId := a.lastId + k }

/-- The starting number is raised with the states. -/
def Registry.shift (k : Nat) (r : Registry) : Registry where
  startingId := r.startingId + k
  states := r.states.map (·.shift k)

/-- The open composite states are raised. -/
def Nesting.shift (k : Nat) (n : Nesting) : Nesting :=
  ⟨n.enclosing.map (· + k)⟩

/-- Nicknames mention no number. -/
def Draft.shift (k : Nat) (d : Draft) : Draft :=
  { d with nesting := d.nesting.shift k, registry := d.registry.shift k }

/-- Reports mention no number either. -/
def Reading.shift (k : Nat) (r : Reading) : Reading :=
  { r with draft := r.draft.shift k }

/-- The owner of a missing state is raised. -/
def Placement.shift (k : Nat) (place : Placement) : Placement :=
  { place with owner := place.owner.shift k }

/-- What a name refers to is raised, be it there or missing. -/
def Resolution.shift (k : Nat) : Resolution → Resolution
  | found id => found (id + k)
  | missing place => missing (place.shift k)

theorem Scope.shift_beq (k : Nat) (a b : Scope) : (a.shift k == b.shift k) = (a == b) := by
  rw [Bool.eq_iff_iff, beq_iff_eq, beq_iff_eq]
  cases a <;> cases b <;> simp [shift]

theorem State.annotate_shift (k : Nat) (s : State) (text separator : String) :
    (s.shift k).annotate text separator = (s.annotate text separator).shift k := rfl

theorem State.addTransition_shift (k : Nat) (s : State) (t : Transition) :
    (s.shift k).addTransition (t.shift k) = (s.addTransition t).shift k := by
  simp [addTransition, shift]

namespace Registry

variable (k : Nat) (r : Registry)

theorem shift_lastId : (r.shift k).lastId = r.lastId + k := by
  simp only [lastId, shift, List.length_map]
  lia

theorem shift_push (name : String) (kind : Kind) (owner : Scope) :
    (r.shift k).push name kind (owner.shift k) = (r.push name kind owner).shift k := by
  have next : r.lastId + k + 1 = r.lastId + 1 + k := by lia
  unfold push
  rw [shift_lastId, next]
  simp [shift, State.blank, State.shift]

theorem shift_position? (id : StateId) : (r.shift k).position? (id + k) = r.position? id := by
  have above : r.startingId + k < id + k ↔ r.startingId < id := by lia
  have place : id + k - (r.startingId + k) - 1 = id - r.startingId - 1 := by lia
  simp only [position?, shift, above, place]

theorem shift_modify (id : StateId) (change raised : State → State)
    (commutes : ∀ s : State, raised (s.shift k) = (change s).shift k) :
    (r.shift k).modify (id + k) raised = (r.modify id change).shift k := by
  unfold modify
  rw [shift_position?]
  cases r.position? id with
  | none => rfl
  | some position =>
    simp only [shift, Registry.mk.injEq, true_and]
    apply List.ext_getElem?
    intro i
    simp only [List.getElem?_modify, List.getElem?_map]
    cases r.states[i]? with
    | none => rfl
    | some s =>
      by_cases here : position = i
      · simp [here, commutes]
      · simp [here]

theorem shift_find? {p q : State → Bool} (same : ∀ s : State, q (s.shift k) = p s) :
    (r.shift k).states.find? q = (r.states.find? p).map (·.shift k) := by
  have composed : q ∘ State.shift k = p := funext same
  rw [shift, List.find?_map, composed]

theorem shift_findByName? (name : String) :
    (r.shift k).findByName? name = (r.findByName? name).map (·.shift k) :=
  r.shift_find? k fun _ => rfl

theorem shift_findInScope? (name : String) (scope : Scope) :
    (r.shift k).findInScope? name (scope.shift k) = (r.findInScope? name scope).map (·.shift k) :=
  r.shift_find? k fun s => congrArg (s.name == name && ·) (Scope.shift_beq k s.owner scope)

theorem shift_findHistory? (name : String) (scope : Scope) :
    (r.shift k).findHistory? name (scope.shift k) = (r.findHistory? name scope).map (·.shift k) :=
  r.shift_find? k fun s =>
    congrArg (s.kind == .history && s.name == name && ·) (Scope.shift_beq k s.owner scope)

theorem shift_initialsIn (scope : Scope) :
    (r.shift k).initialsIn (scope.shift k) = (r.initialsIn scope).map (·.shift k) := by
  unfold initialsIn
  rw [shift, List.filter_map]
  congr 1
  apply List.filter_congr
  intro s _
  exact congrArg (s.kind == .initial && s.name == Name.initialMark && ·)
    (Scope.shift_beq k s.owner scope)

end Registry

theorem Nesting.shift_scope (k : Nat) (n : Nesting) : (n.shift k).scope = n.scope.shift k := by
  unfold shift scope
  cases n.enclosing <;> rfl

theorem Nesting.shift_outward (k : Nat) (n : Nesting) :
    (n.shift k).outward = n.outward.map (·.shift k) := by
  simp [outward, shift, Scope.shift]

namespace Draft

variable (k : Nat) (d : Draft)

theorem shift_findPlain? (identity : Identity) (name : String) :
    (d.shift k).findPlain? identity name = (d.findPlain? identity name).map (·.shift k) := by
  cases identity with
  | global => exact d.registry.shift_findByName? k name
  | lexical =>
    simp only [findPlain?, shift, Nesting.shift_outward, List.findSome?_map, List.map_findSome?]
    congr 1
    funext scope
    exact d.registry.shift_findInScope? k name scope

theorem ofSearch_shift (hit : Option State) (name : String) (kind : Kind) (owner : Scope) :
    Resolution.ofSearch (hit.map (·.shift k)) name kind (owner.shift k) =
      (Resolution.ofSearch hit name kind owner).shift k := by
  cases hit <;> rfl

theorem shift_resolveInitial (role : Role) :
    (d.shift k).resolveInitial role = (d.resolveInitial role).shift k := by
  have scope : (d.shift k).nesting.scope = d.nesting.scope.shift k := d.nesting.shift_scope k
  have initials : (d.shift k).registry.initialsIn (d.nesting.scope.shift k) =
      (d.registry.initialsIn d.nesting.scope).map (·.shift k) := d.registry.shift_initialsIn k _
  unfold resolveInitial
  rw [scope, initials]
  cases role <;> simp only [List.getElem?_map, ofSearch_shift]

theorem shift_resolveHistory (identity : Identity) (written : String) (owner : Option String)
    (marker : String) :
    (d.shift k).resolveHistory identity written owner marker =
      (d.resolveHistory identity written owner marker).shift k := by
  have scope : (d.shift k).nesting.scope = d.nesting.scope.shift k := d.nesting.shift_scope k
  have search (name : String) (scope : Scope) :
      Resolution.ofSearch ((d.shift k).registry.findHistory? name (scope.shift k)) name .history
        (scope.shift k) =
      (Resolution.ofSearch (d.registry.findHistory? name scope) name .history scope).shift k := by
    rw [← ofSearch_shift, ← Registry.shift_findHistory?]
    rfl
  unfold resolveHistory
  rw [scope]
  cases owner with
  | none => exact search marker _
  | some owner =>
    have found := d.shift_findPlain? k identity (d.nicknames.fullName owner)
    have nicknames : (d.shift k).nicknames = d.nicknames := rfl
    dsimp only
    rw [nicknames, found]
    cases d.findPlain? identity (d.nicknames.fullName owner) with
    | none => exact search written _
    | some s => exact search marker (.state s.id)

/-- A name refers to the same state, or asks for the same one. -/
theorem shift_resolve (identity : Identity) (raw : String) (role : Role) :
    (d.shift k).resolve identity raw role = (d.resolve identity raw role).shift k := by
  have nicknames : (d.shift k).nicknames = d.nicknames := rfl
  have scope : (d.shift k).nesting.scope = d.nesting.scope.shift k := d.nesting.shift_scope k
  unfold resolve
  dsimp only
  rw [nicknames, scope]
  cases Name.ofString (d.nicknames.fullName (String.ofList (Text.trim raw.toList))) with
  | initial => exact d.shift_resolveInitial k role
  | history owner marker => exact d.shift_resolveHistory k identity _ owner marker
  | plain name => simp only [shift_findPlain?, ofSearch_shift]

end Draft

namespace Reading

variable {o : Options} {r next : Reading} {k number : Nat} {raw : String} {role : Role}
  {kind : Option Kind} {line : Line} {d : Diagnostic}

/-- The number handed out last, as far as a diagram has been read. -/
abbrev lastId (r : Reading) : StateId :=
  r.draft.registry.lastId

/-- Raised by so much, the numbers that a diagram has so far are still numbers. -/
def Fits (k : Nat) (r : Reading) : Prop :=
  r.lastId + k ≤ StateId.max

theorem shift_push (k : Nat) (r : Reading) (name : String) (kind : Kind) (owner : Scope) :
    (r.shift k).push name kind (owner.shift k) = (r.push name kind owner).shift k := by
  unfold push Draft.push shift
  dsimp only
  rw [show (Draft.shift k r.draft).registry = r.draft.registry.shift k from rfl,
    Registry.shift_push]
  rfl

theorem shift_modify (r : Reading) (k : Nat) (id : StateId) (change raised : State → State)
    (commutes : ∀ s : State, raised (s.shift k) = (change s).shift k) :
    (r.shift k).modify (id + k) raised = (r.modify id change).shift k := by
  have registry := r.draft.registry.shift_modify k id change raised commutes
  unfold modify
  rw [show (r.shift k).draft.registry = r.draft.registry.shift k from rfl, registry]
  rfl

theorem shift_annotate (o : Options) (k : Nat) (r : Reading) (id : StateId) (text : String) :
    (r.shift k).annotate o (id + k) text = (r.annotate o id text).shift k :=
  r.shift_modify k id _ _ fun s => s.annotate_shift k text o.separator

theorem shift_addTransition (k : Nat) (r : Reading) (t : Transition) :
    (r.shift k).addTransition (t.shift k) = (r.addTransition t).shift k := by
  rw [addTransition_eq, addTransition_eq]
  exact r.shift_modify k t.source _ _ fun s => s.addTransition_shift k t

theorem shift_leave (k : Nat) (r : Reading) : (r.shift k).leave = r.leave.shift k := by
  simp [leave, shift, Draft.shift, Nesting.shift, Nesting.leave, List.map_tail]

theorem shift_introduce (k : Nat) (r : Reading) (number : Nat) (fullName nickname : String) :
    (r.shift k).introduce number fullName nickname =
      ((r.introduce number fullName nickname).1, (r.introduce number fullName nickname).2.shift k) := by
  unfold introduce
  rw [show (r.shift k).draft.nicknames = r.draft.nicknames from rfl]
  cases r.draft.nicknames.introduce fullName nickname <;> rfl

theorem introduce_lastId (r : Reading) (number : Nat) (fullName nickname : String) :
    (r.introduce number fullName nickname).2.lastId = r.lastId := by
  unfold introduce
  cases r.draft.nicknames.introduce fullName nickname <;> rfl

theorem annotate_lastId (o : Options) (r : Reading) (id : StateId) (text : String) :
    (r.annotate o id text).lastId = r.lastId :=
  Registry.modify_lastId _ _ _

theorem addTransition_lastId (r : Reading) (t : Transition) :
    (r.addTransition t).lastId = r.lastId := by
  rw [addTransition_eq]
  exact Registry.modify_lastId _ _ _

/-- Obtaining a name goes on in step in a diagram and its raised copy, unless it is the copy's turn
to run out of numbers. -/
theorem obtain_shift (fits : r.Fits k) (o : Options) (number : Nat) (raw : String) (role : Role)
    (kind : Option Kind) :
    (∃ id next, r.obtain o number raw role kind = .ok (id, next) ∧ next.Fits k ∧
      (r.shift k).obtain o number raw role kind = .ok (id + k, next.shift k)) ∨
    ((r.shift k).obtain o number raw role kind =
        .error { line := number, issue := .identifierOverflow StateId.max } ∧
      ∀ id next, r.obtain o number raw role kind = .ok (id, next) → StateId.max < next.lastId + k) := by
  have resolved := r.draft.shift_resolve k o.identity raw role
  have shiftedLast : (r.shift k).draft.registry.lastId = r.lastId + k := r.draft.registry.shift_lastId k
  unfold Fits at fits
  cases there : r.draft.resolve o.identity raw role with
  | found id =>
    left
    rw [there] at resolved
    exact ⟨id, r, obtain_eq_ok_iff.mpr (.inl ⟨there, rfl⟩), fits,
      obtain_eq_ok_iff.mpr (.inl ⟨resolved, rfl⟩)⟩
  | missing place =>
    rw [there] at resolved
    by_cases room : r.lastId + k < StateId.max
    · left
      have created : r.lastId < StateId.max := by lia
      refine ⟨r.lastId + 1, r.push place.name (kind.getD place.kind) place.owner,
        obtain_eq_ok_iff.mpr (.inr ⟨place, there, created, rfl, rfl⟩), ?_,
        obtain_eq_ok_iff.mpr (.inr ⟨place.shift k, resolved, ?_, ?_, ?_⟩)⟩
      · simp only [Fits, push, Draft.push, Registry.push_lastId, lastId] at room ⊢
        lia
      · rw [shiftedLast]
        exact room
      · rw [shiftedLast]
        lia
      · exact (shift_push k r place.name _ place.owner).symm
    · right
      have full : r.lastId + k = StateId.max := by lia
      constructor
      · have atEnd : (r.shift k).draft.registry.lastId = StateId.max := shiftedLast.trans full
        refine obtain_eq_error_iff.mpr ⟨place.shift k, resolved, Nat.le_of_eq atEnd.symm, ?_⟩
        rw [atEnd]
      · intro id next ran
        rcases obtain_eq_ok_iff.mp ran with ⟨found, -⟩ | ⟨_, -, -, -, rfl⟩
        · rw [there] at found
          cases found
        · simp only [push, Draft.push, Registry.push_lastId, lastId] at full ⊢
          lia

/-- How reading a line ends in a diagram and in its raised copy. -/
inductive Shifted (k number : Nat) : Except Diagnostic Reading → Except Diagnostic Reading → Prop where
  /-- Both go on. -/
  | goesOn {r : Reading} (fits : r.Fits k) : Shifted k number (.ok r) (.ok (r.shift k))
  /-- Both meet a text for a name that refers to nothing. -/
  | unresolved (name : String) :
    Shifted k number (.error { line := number, issue := .unresolvedReference name })
      (.error { line := number, issue := .unresolvedReference name })
  /-- The copy has no numbers left for the states of this line. -/
  | exhausted {r : Reading} (beyond : StateId.max < r.lastId + k) :
    Shifted k number (.ok r)
      (.error { line := number, issue := .identifierOverflow StateId.max })
  /-- Both run out of numbers. -/
  | bothExhausted (last : StateId) :
    Shifted k number (.error { line := number, issue := .identifierOverflow last })
      (.error { line := number, issue := .identifierOverflow StateId.max })

private theorem Shifted.of_exhausted {result : Except Diagnostic Reading}
    (beyond : ∀ next, result = .ok next → StateId.max < next.lastId + k)
    (blamed : ∀ d, result = .error d →
      ∃ last, d = { line := number, issue := .identifierOverflow last }) :
    Shifted k number result
      (.error { line := number, issue := .identifierOverflow StateId.max }) := by
  cases result with
  | ok next => exact .exhausted (beyond next rfl)
  | error d =>
    obtain ⟨last, rfl⟩ := blamed d rfl
    exact .bothExhausted last

/-- A line that obtains a name and then does something that creates no states. -/
private theorem obtain_then_shifted (fits : r.Fits k) (finish raised : StateId × Reading → Reading)
    (commutes : ∀ id next, raised (id + k, next.shift k) = (finish (id, next)).shift k)
    (kept : ∀ id next, (finish (id, next)).lastId = next.lastId) :
    Shifted k number (r.obtain o number raw role kind >>= fun x => pure (finish x))
      ((r.shift k).obtain o number raw role kind >>= fun x => pure (raised x)) := by
  obtain ⟨id, next, ran, nextFits, ranShifted⟩ | ⟨failed, beyond⟩ :=
    obtain_shift fits o number raw role kind
  · rw [ran, ranShifted]
    show Shifted k number (.ok (finish (id, next))) (.ok (raised (id + k, next.shift k)))
    rw [commutes]
    exact .goesOn (by rw [Fits, kept]; exact nextFits)
  · rw [failed]
    refine Shifted.of_exhausted ?_ ?_
    · intro last ran
      obtain ⟨⟨id, next⟩, obtained, rest⟩ := bind_eq_ok_iff.mp ran
      cases rest
      rw [kept]
      exact beyond id next obtained
    · intro d failed
      rcases bind_eq_error_iff.mp failed with failed | ⟨_, -, rest⟩
      · obtain ⟨place, -, -, rfl⟩ := obtain_eq_error_iff.mp failed
        exact ⟨_, rfl⟩
      · cases rest

/-- Obtaining names never makes the last number smaller. -/
theorem obtain_lastId_le {id : StateId} (ran : r.obtain o number raw role kind = .ok (id, next)) :
    r.lastId ≤ next.lastId := by
  rcases obtain_eq_ok_iff.mp ran with ⟨-, rfl⟩ | ⟨place, -, -, -, rfl⟩
  · exact Nat.le_refl _
  · simp [lastId, push, Draft.push]

/-- One line keeps a diagram and its raised copy in step. -/
theorem step_shifted (fits : r.Fits k) :
    Shifted k number (r.step o number line) ((r.shift k).step o number line) := by
  cases line with
  | composite name nickname =>
    let entered (x : StateId × Reading) : Reading := x.2.enter x.1
    cases nickname with
    | none => exact obtain_then_shifted fits entered entered (fun _ _ => rfl) (fun _ _ => rfl)
    | some nickname =>
      simp only [step, shift_introduce]
      have stillFits : (r.introduce number name nickname).2.Fits k := by
        rw [Fits, introduce_lastId]
        exact fits
      exact obtain_then_shifted stillFits entered entered (fun _ _ => rfl) (fun _ _ => rfl)
  | aliased name nickname stereotype =>
    simp only [step, shift_introduce]
    have stillFits : (r.introduce number name nickname).2.Fits k := by
      rw [Fits, introduce_lastId]
      exact fits
    generalize r.introduce number name nickname = result at stillFits ⊢
    obtain ⟨accepted, between⟩ := result
    cases accepted with
    | true => exact obtain_then_shifted stillFits Prod.snd Prod.snd (fun _ _ => rfl) (fun _ _ => rfl)
    | false => exact .goesOn stillFits
  | stereotyped name stereotype =>
    exact obtain_then_shifted fits Prod.snd Prod.snd (fun _ _ => rfl) (fun _ _ => rfl)
  | simple name content =>
    cases content with
    | none => exact obtain_then_shifted fits Prod.snd Prod.snd (fun _ _ => rfl) (fun _ _ => rfl)
    | some text =>
      let annotated (x : StateId × Reading) : Reading := x.2.annotate o x.1 text
      exact obtain_then_shifted fits annotated annotated (fun id next => shift_annotate o k next id text)
        (fun id next => annotate_lastId o next id text)
  | close =>
    simp only [step, shift_leave]
    exact .goesOn fits
  | transition source target event =>
    have blamed : ∀ d, r.step o number (.transition source target event) = .error d →
        ∃ last, d = { line := number, issue := .identifierOverflow last } := by
      intro d failed
      rcases step_error failed with ⟨_, -, -, rfl⟩ | ⟨_, _, other, -⟩
      · exact ⟨_, rfl⟩
      · cases other
    obtain ⟨id, next, ran, nextFits, ranShifted⟩ | ⟨failed, beyond⟩ :=
      obtain_shift fits o number source .source none
    · simp only [step, ran, ranShifted]
      exact obtain_then_shifted nextFits
        (fun x => x.2.addTransition { source := id, target := x.1, event })
        (fun x => x.2.addTransition { source := id + k, target := x.1, event })
        (fun id' later => shift_addTransition k later { source := id, target := id', event })
        (fun _ later => addTransition_lastId later _)
    · have stopped : (r.shift k).step o number (.transition source target event) =
          .error { line := number, issue := .identifierOverflow StateId.max } := by
        simp only [step, failed]
        rfl
      rw [stopped]
      refine Shifted.of_exhausted ?_ blamed
      intro last ran
      obtain ⟨⟨id, next⟩, first, rest⟩ := bind_eq_ok_iff.mp ran
      obtain ⟨⟨id', next'⟩, second, rest⟩ := bind_eq_ok_iff.mp rest
      cases rest
      have above := beyond id next first
      have grown := obtain_lastId_le second
      rw [addTransition_lastId]
      lia
  | content name text =>
    have resolved := r.draft.shift_resolve k o.identity name .declaration
    have shifted : (r.shift k).draft.resolve o.identity name .declaration =
        (r.draft.resolve o.identity name .declaration).shift k := resolved
    simp only [step, shifted]
    cases r.draft.resolve o.identity name .declaration with
    | found id =>
      simp only [Resolution.shift, Resolution.id?, shift_annotate]
      exact .goesOn (by rw [Fits, annotate_lastId]; exact fits)
    | missing place =>
      simp only [Resolution.shift, Resolution.id?]
      cases o.onUnresolved with
      | abort => exact .unresolved name
      | skip => exact .goesOn fits
  | ignored => exact .goesOn fits

/-- How reading many lines ends in a diagram and in its raised copy: both say the same, or both
meet the same text for a name that refers to nothing, or there is a line up to which they are in step
and on which the copy has no numbers left. -/
theorem run_shifted (fits : r.Fits k) (lines : List (Line × Nat)) :
    (∃ next, run o r lines = .ok next ∧ next.Fits k ∧
      run o (r.shift k) lines = .ok (next.shift k)) ∨
    (∃ earlier line number later before name, lines = earlier ++ (line, number) :: later ∧
      run o r earlier = .ok before ∧ before.Fits k ∧
      run o r lines = .error { line := number, issue := .unresolvedReference name } ∧
      run o (r.shift k) lines = .error { line := number, issue := .unresolvedReference name }) ∨
    ∃ earlier line number later before, lines = earlier ++ (line, number) :: later ∧
      run o r earlier = .ok before ∧ before.Fits k ∧
      run o (r.shift k) lines = .error { line := number, issue := .identifierOverflow StateId.max } ∧
      ((∃ after, before.step o number line = .ok after ∧ StateId.max < after.lastId + k) ∨
        ∃ last, before.step o number line =
          .error { line := number, issue := .identifierOverflow last }) := by
  induction lines generalizing r with
  | nil => exact .inl ⟨r, rfl, fits, rfl⟩
  | cons entry later ih =>
    obtain ⟨line, number⟩ := entry
    rw [run_cons, run_cons]
    have together : Shifted k number (r.step o number line) ((r.shift k).step o number line) :=
      step_shifted fits
    generalize first : r.step o number line = result,
      firstShifted : (r.shift k).step o number line = resultShifted at together
    cases together with
    | @goesOn next nextFits =>
      obtain ⟨last, ran, lastFits, ranShifted⟩ |
        ⟨earlier, line', number', later', before, name, rfl, ran, beforeFits, failed, failedShifted⟩ |
        ⟨earlier, line', number', later', before, rfl, ran, beforeFits, failedShifted, stopped⟩ :=
        ih nextFits
      · exact .inl ⟨last, ran, lastFits, ranShifted⟩
      · refine .inr (.inl ⟨(line, number) :: earlier, line', number', later', before, name, rfl, ?_,
          beforeFits, failed, failedShifted⟩)
        rw [run_cons, first]
        exact ran
      · refine .inr (.inr ⟨(line, number) :: earlier, line', number', later', before, rfl, ?_,
          beforeFits, failedShifted, stopped⟩)
        rw [run_cons, first]
        exact ran
    | unresolved name =>
      exact .inr (.inl ⟨[], line, number, later, r, name, rfl, rfl, fits, rfl, rfl⟩)
    | @exhausted next beyond =>
      exact .inr (.inr ⟨[], line, number, later, r, rfl, rfl, fits, rfl, .inl ⟨next, first, beyond⟩⟩)
    | bothExhausted last =>
      exact .inr (.inr ⟨[], line, number, later, r, rfl, rfl, fits, rfl, .inr ⟨last, first⟩⟩)

/-- The number handed out last counts the states from the starting number on. -/
theorem run_lastId {lines : List (Line × Nat)} {startingId : StateId}
    (ran : run o (.start startingId) lines = .ok next) :
    next.lastId = startingId + next.draft.registry.states.length := by
  have kept := (run_moves ran).startingId_eq
  unfold lastId Registry.lastId
  rw [kept]
  rfl

/-- Above zero, the states are counted by the last number. -/
theorem fits_iff {lines : List (Line × Nat)} (ran : run o (.start 0) lines = .ok next) :
    next.Fits k ↔ k + next.draft.registry.states.length ≤ StateId.max := by
  have count := run_lastId ran
  unfold Fits
  lia

theorem toAnalysis_shift (k : Nat) (r : Reading) : (r.shift k).toAnalysis = r.toAnalysis.shift k := by
  have last : (r.shift k).draft.registry.lastId = r.draft.registry.lastId + k :=
    r.draft.registry.shift_lastId k
  unfold toAnalysis Analysis.shift
  rw [last]
  rfl

theorem start_shift (k : Nat) : (start 0).shift k = start k := by
  unfold start Draft.start shift Draft.shift Registry.shift
  simp only [Registry.empty, Nat.zero_add]
  rfl

end Reading

/-- The same way of reading, with numbers above another one. -/
def Options.above (o : Options) (startingId : UInt64) : Options :=
  { o with startingId }

/-- Only the beginning of a reading looks at the starting number. -/
theorem Reading.step_above (o : Options) (s : UInt64) (r : Reading) (number : Nat) (line : Line) :
    r.step (o.above s) number line = r.step o number line := by
  cases line <;> rfl

theorem Reading.run_above (o : Options) (s : UInt64) (r : Reading) (lines : List (Line × Nat)) :
    run (o.above s) r lines = run o r lines := by
  induction lines generalizing r with
  | nil => rfl
  | cons entry later ih =>
    obtain ⟨line, number⟩ := entry
    rw [run_cons, run_cons, step_above]
    exact congrArg (r.step o number line >>= ·) (funext ih)

/-- How many states a diagram has before one of its lines, provided that the lines above it can be
read. -/
def statesBefore? (o : Options) (text : String) (line : Nat) : Option Nat :=
  match Reading.run o (.start o.startingId.toNat) ((numberedLines text).take (line - 1)) with
  | .ok r => some r.draft.registry.states.length
  | .error _ => none

/-- This line creates the state that makes so many. -/
def CreatedOn (o : Options) (text : String) (count line : Nat) : Prop :=
  ∃ before after, statesBefore? o text line = some before ∧ before < count ∧
    statesBefore? o text (line + 1) = some after ∧ count ≤ after

/-- What does not fit does not fit later on. -/
theorem Reading.Moves.not_fits {o : Options} {r next : Reading} {k : Nat} (moves : Moves o r next)
    (beyond : ¬ r.Fits k) : ¬ next.Fits k := by
  have grown : r.lastId ≤ next.lastId := moves.grows.lastId_le
  unfold Fits at beyond ⊢
  lia

section Split

variable {o : Options} {text : String} {earlier later : List (Line × Nat)} {line : Line}
  {number k : Nat} {before after next : Reading}

theorem statesBefore?_eq_some (split : numberedLines text = earlier ++ (line, number) :: later)
    (ran : Reading.run o (.start o.startingId.toNat) earlier = .ok before) :
    statesBefore? o text number = some before.draft.registry.states.length := by
  rw [statesBefore?, take_of_split split, ran]

theorem statesBefore?_succ_eq_some (split : numberedLines text = earlier ++ (line, number) :: later)
    (ran : Reading.run o (.start o.startingId.toNat) earlier = .ok before)
    (stepped : before.step o number line = .ok after) :
    statesBefore? o text (number + 1) = some after.draft.registry.states.length := by
  rw [statesBefore?, Nat.add_sub_cancel, take_succ_of_split split, Reading.run_split ran stepped []]
  rfl

/-- Where the number of states passes a count, the line that brings them there creates the state. -/
theorem createdOn_of_split (split : numberedLines text = earlier ++ (line, number) :: later)
    (ran : Reading.run o (.start o.startingId.toNat) earlier = .ok before)
    (stepped : before.step o number line = .ok after) {count : Nat}
    (short : before.draft.registry.states.length < count)
    (reached : count ≤ after.draft.registry.states.length) : CreatedOn o text count number :=
  ⟨_, _, statesBefore?_eq_some split ran, short, statesBefore?_succ_eq_some split ran stepped, reached⟩

/-- A line on which the raised copy would pass the largest number creates the state that is one too
many. -/
theorem createdOn_of_beyond (split : numberedLines text = earlier ++ (line, number) :: later)
    (ran : Reading.run o (.start 0) earlier = .ok before) (fits : before.Fits k)
    (stepped : before.step o number line = .ok after) (beyond : ¬ after.Fits k) :
    CreatedOn (o.above 0) text (UInt64.size - k) number := by
  have ranAfter : Reading.run o (.start 0) (earlier ++ [(line, number)]) = .ok after :=
    Reading.run_split ran stepped []
  have ranAbove := (Reading.run_above o 0 (.start 0) earlier).trans ran
  have steppedAbove := (Reading.step_above o 0 before number line).trans stepped
  rw [Reading.fits_iff ran, StateId.max] at fits
  rw [Reading.fits_iff ranAfter, StateId.max] at beyond
  apply createdOn_of_split split ranAbove steppedAbove
  · lia
  · lia

/-- Once the numbers have run out for the copy, they stay too few. -/
theorem too_many_of_beyond (split : numberedLines text = earlier ++ (line, number) :: later)
    (ran : Reading.run o (.start 0) earlier = .ok before)
    (stepped : before.step o number line = .ok after) (beyond : ¬ after.Fits k)
    (read : Reading.run o (.start 0) (numberedLines text) = .ok next) :
    ¬ k + next.toAnalysis.states.length ≤ StateId.max := by
  have rest := read
  rw [split, Reading.run_split ran stepped] at rest
  have nextOver := (Reading.run_moves rest).not_fits beyond
  rwa [Reading.fits_iff read] at nextOver

/-- If the diagram itself fails after the numbers have run out for the copy, it fails below that line,
and on the way there it has created too many states for the copy. -/
theorem line_lt_of_beyond (split : numberedLines text = earlier ++ (line, number) :: later)
    (ran : Reading.run o (.start 0) earlier = .ok before)
    (stepped : before.step o number line = .ok after) (beyond : ¬ after.Fits k) {d : Diagnostic}
    (failed : Reading.run o (.start 0) (numberedLines text) = .error d) :
    number < d.line ∧
      ∃ count, statesBefore? (o.above 0) text d.line = some count ∧ ¬ k + count ≤ StateId.max := by
  rw [split, Reading.run_split ran stepped] at failed
  obtain ⟨between, line', m, last, reached, rfl, ranBetween, stopped⟩ := Reading.run_error failed
  obtain rfl := Reading.step_error_line stopped
  have splitBelow :
      numberedLines text = (earlier ++ (line, number) :: between) ++ (line', d.line) :: last := by
    rw [split, List.append_assoc, List.cons_append]
  have ranBelow : Reading.run o (.start 0) (earlier ++ (line, number) :: between) = .ok reached := by
    rw [Reading.run_split ran stepped, ranBetween]
  have ranAbove := (Reading.run_above o 0 (.start 0) _).trans ranBelow
  refine ⟨?_, _, statesBefore?_eq_some splitBelow ranAbove, ?_⟩
  · rw [number_of_split split, number_of_split splitBelow, List.length_append, List.length_cons]
    omega
  · rw [← Reading.fits_iff ranBelow]
    exact (Reading.run_moves ranBetween).not_fits beyond

end Split

/-- Reading above another number raises every number of the diagram and changes nothing else. It goes
wrong only where the numbers would pass the largest one: on the line that creates the state which is
one too many. A text for a name that refers to nothing is met on the same line, unless the numbers
run out above it. -/
theorem analyze_above (o : Options) (s : UInt64) (text : String) :
    match analyze (o.above 0) text with
    | .ok a =>
      if s.toNat + a.states.length ≤ StateId.max then
        analyze (o.above s) text = .ok (a.shift s.toNat)
      else
        ∃ line, CreatedOn (o.above 0) text (UInt64.size - s.toNat) line ∧
          analyze (o.above s) text = .error { line, issue := .identifierOverflow StateId.max }
    | .error { line := m, issue := .unresolvedReference name } =>
      ∃ count, statesBefore? (o.above 0) text m = some count ∧
        if s.toNat + count ≤ StateId.max then
          analyze (o.above s) text = .error { line := m, issue := .unresolvedReference name }
        else
          ∃ line < m, CreatedOn (o.above 0) text (UInt64.size - s.toNat) line ∧
            analyze (o.above s) text = .error { line, issue := .identifierOverflow StateId.max }
    | .error { line := m, .. } =>
      ∃ line ≤ m, analyze (o.above s) text = .error { line, issue := .identifierOverflow StateId.max } := by
  have small : s.toNat < UInt64.size := s.toNat_lt
  have fits : (Reading.start 0).Fits s.toNat := by
    show 0 + s.toNat ≤ UInt64.size - 1
    omega
  have lowRead (r : Reading) (ran : Reading.run o (.start 0) (numberedLines text) = .ok r) :
      analyze (o.above 0) text = .ok r.toAnalysis := by
    rw [← Reading.run_above o 0] at ran
    exact analyze_eq_ok_iff.mpr ⟨r, ran, rfl⟩
  have lowFailed (d : Diagnostic) (ran : Reading.run o (.start 0) (numberedLines text) = .error d) :
      analyze (o.above 0) text = .error d := by
    rw [← Reading.run_above o 0] at ran
    exact analyze_eq_error_iff.mpr ran
  have high : ∀ result, Reading.run o ((Reading.start 0).shift s.toNat) (numberedLines text) = result →
      Reading.run (o.above s) (.start (o.above s).startingId.toNat) (numberedLines text) = result := by
    intro result ran
    rw [Reading.run_above, ← ran, Reading.start_shift]
    rfl
  obtain ⟨next, ran, nextFits, ranShifted⟩ |
    ⟨earlier, line, m, later, before, name, split, ran, beforeFits, failed, failedShifted⟩ |
    ⟨earlier, line, number, later, before, split, ran, beforeFits, failedShifted, stopped⟩ :=
    Reading.run_shifted fits (o := o) (numberedLines text)
  · -- Both diagrams are read to the end.
    have highRead : analyze (o.above s) text = .ok (next.toAnalysis.shift s.toNat) :=
      analyze_eq_ok_iff.mpr ⟨_, high _ ranShifted, (Reading.toAnalysis_shift ..).symm⟩
    have room : s.toNat + next.toAnalysis.states.length ≤ StateId.max :=
      (Reading.fits_iff ran).mp nextFits
    rw [lowRead next ran, highRead]
    dsimp only
    rw [if_pos room]
  · -- Both meet the same text for a name that refers to nothing.
    have room : s.toNat + before.draft.registry.states.length ≤ StateId.max :=
      (Reading.fits_iff ran).mp beforeFits
    have ranAbove := (Reading.run_above o 0 (.start 0) _).trans ran
    rw [lowFailed _ failed, analyze_eq_error_iff.mpr (high _ failedShifted)]
    refine ⟨_, statesBefore?_eq_some split ranAbove, ?_⟩
    rw [if_pos room]
  · have highFailed := analyze_eq_error_iff.mpr (high _ failedShifted)
    rw [highFailed]
    rcases stopped with ⟨after, stepped, beyond⟩ | ⟨last, failed⟩
    · -- The numbers run out on a line that the diagram itself gets past.
      have tooMany : ¬ after.Fits s.toNat := Nat.not_le.mpr beyond
      have created := createdOn_of_beyond split ran beforeFits stepped tooMany
      cases whole : Reading.run o (.start 0) (numberedLines text) with
      | ok next =>
        rw [lowRead next whole]
        dsimp only
        rw [if_neg (too_many_of_beyond split ran stepped tooMany whole)]
        exact ⟨number, created, rfl⟩
      | error d =>
        obtain ⟨below, count, counted, noRoom⟩ := line_lt_of_beyond split ran stepped tooMany whole
        rw [lowFailed d whole]
        obtain ⟨m, issue⟩ := d
        cases issue with
        | unresolvedReference name =>
          refine ⟨count, counted, ?_⟩
          rw [if_neg noRoom]
          exact ⟨number, below, created, rfl⟩
        | identifierOverflow | aliasConflict => exact ⟨number, Nat.le_of_lt below, rfl⟩
    · -- The diagram itself has no numbers left on this line.
      have whole : Reading.run o (.start 0) (numberedLines text) =
          .error { line := number, issue := .identifierOverflow last } := by
        rw [split, Reading.run_append, ran]
        show Reading.run o before ((line, number) :: later) = _
        rw [Reading.run_cons, failed]
        rfl
      rw [lowFailed _ whole]
      exact ⟨number, Nat.le_refl _, rfl⟩

end Statechart
