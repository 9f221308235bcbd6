import Statechart.Proofs.ExactReports
import Statechart.Proofs.OpenScopes
import Statechart.Proofs.Translation

/-! Braces and depth. A line that opens a brace enters a state, and a closing brace leaves it again, so
the open composite states count the open braces. If every brace that is opened is the brace of a new
state, that state belongs to the scope in which the brace was opened, so the open composite states lie
in one another; and if no history of a named owner is written, every other state belongs to the scope
of the line that creates it as well. Then the depth of a state is the number of the braces that are
open around it. -/
namespace Statechart

/-- The names of states that are written on a line. -/
def Line.names : Line → List String
  | composite name _ | aliased name _ _ | stereotyped name _ | simple name _ | content name _ => [name]
  | transition source target _ => [source, target]
  | close | ignored => []

theorem Line.mem_names_of_introduction {line : Line} {full nickname : String}
    (introduced : line.introduction? = some (full, nickname)) : full ∈ line.names := by
  cases line with
  | composite name short =>
    cases short with
    | none => cases introduced
    | some short =>
      cases introduced
      exact List.mem_cons_self
  | aliased name short stereotype =>
    cases introduced
    exact List.mem_cons_self
  | close | stereotyped | simple | transition | content | ignored => cases introduced

/-- Whether a name is the history of a named owner. -/
def Name.hasOwner : Name → Bool
  | history (some _) _ => true
  | _ => false

theorem Name.ne_history_of_hasOwner {name : Name} (free : name.hasOwner = false) (holder marker : String) :
    name ≠ .history (some holder) marker := by
  rintro rfl
  cases free

/-- Every line that opens a brace creates a state for it: the name on the line refers to nothing when
the line is reached. -/
def OpensNew (o : Options) (origin : Reading) (lines : List (Line × Nat)) : Prop :=
  ∀ name nickname number before,
    Reading.ReachedAt o origin lines (.composite name nickname, number) before →
    (before.draft.resolve o.identity name .declaration).id? = none

/-- Whether a line opens no brace, or opens it for a name that refers to nothing in what was read so far. -/
def Line.opensNew (o : Options) (line : Line) (sofar : Except Diagnostic Reading) : Bool :=
  match line, sofar with
  | .composite name _, .ok before => (before.draft.resolve o.identity name .declaration).id?.isNone
  | _, _ => true

/-- Braces are opened for new states exactly if every line says so after the lines above it. -/
theorem opensNew_iff_all {o : Options} {origin : Reading} {text : String} :
    OpensNew o origin (numberedLines text) ↔
      (numberedLines text).all (fun entry =>
        entry.1.opensNew o (Reading.run o origin ((numberedLines text).take (entry.2 - 1)))) = true := by
  rw [List.all_eq_true]
  constructor
  · rintro new ⟨line, number⟩ member
    obtain ⟨earlier, later, split⟩ := List.append_of_mem member
    dsimp only
    rw [take_of_split split]
    unfold Line.opensNew
    split
    · rename_i name nickname before ran
      simpa using new name nickname number before ⟨earlier, later, split, ran⟩
    · rfl
  · rintro each name nickname number before ⟨earlier, later, split, ran⟩
    have here := each (.composite name nickname, number) (by rw [split]; simp)
    rw [take_of_split split, ran] at here
    simpa [Line.opensNew] using here

instance {o : Options} {origin : Reading} {text : String} :
    Decidable (OpensNew o origin (numberedLines text)) :=
  decidable_of_iff _ opensNew_iff_all.symm

theorem OpensNew.of_append {o : Options} {origin : Reading} {front back : List (Line × Nat)}
    (new : OpensNew o origin (front ++ back)) : OpensNew o origin front :=
  fun name nickname number before reached => new name nickname number before (reached.append back)

/-! States that lie in one another. -/

namespace Registry

variable {r : Registry} {stack : List StateId} {s : State}

/-- Each state of a stack belongs to the scope that is made up of the ones below it. -/
inductive Stacked (r : Registry) : List StateId → Prop where
  /-- The diagram itself. -/
  | nil : Stacked r []
  /-- A state of the scope that is open already. -/
  | cons {s : State} {outer : List StateId} (member : s ∈ r.states)
      (owned : s.owner = (Nesting.mk outer).scope) (stacked : Stacked r outer) :
      Stacked r (s.id :: outer)

theorem Stacked.tail (stacked : r.Stacked stack) : r.Stacked stack.tail := by
  cases stacked with
  | nil => exact .nil
  | cons _ _ outer => exact outer

/-- States that lie in one another go on doing so. -/
theorem Stacked.of_grows {r next : Reading} (stacked : r.draft.registry.Stacked stack)
    (grows : r.toAnalysis.Grows next.toAnalysis) : next.draft.registry.Stacked stack := by
  induction stacked with
  | nil => exact .nil
  | @cons s outer member owned _ ih =>
    obtain ⟨i, held⟩ := List.mem_iff_getElem?.mp member
    obtain ⟨t, there, grown⟩ := grows.states i s held
    rw [← grown.id]
    exact .cons (List.mem_of_getElem? there) (grown.owner.trans owned) ih

/-- A state that belongs to the innermost state of a stack lies in all of them and in nothing else. -/
theorem Forest.depth?_of_stacked (forest : r.Forest) (stacked : r.Stacked stack) (member : s ∈ r.states)
    (owned : s.owner = (Nesting.mk stack).scope) :
    (Graph.ofStates r.states).depth? s.id = some stack.length := by
  rw [forest.depth?_eq member]
  congr 1
  induction stacked generalizing s with
  | nil => rw [r.ancestors_of_root owned, Set.ncard_empty, List.length_nil]
  | cons inside around _ ih =>
    rw [forest.ncard_ancestors ⟨inside, member, owned⟩, ih inside around, List.length_cons]

end Registry

/-! Names that do not depend on which states there are. -/

/-- No nickname stands for the history of a named owner. -/
def Nicknames.Ownerless (table : Nicknames) : Prop :=
  ∀ nickname full, table.get? nickname = some full → (Name.ofString full).hasOwner = false

theorem Nicknames.ownerless_empty : empty.Ownerless := by
  intro nickname full bound
  simp [get?, empty] at bound

theorem Nicknames.Ownerless.bind {table : Nicknames} {full nickname : String}
    (ownerless : table.Ownerless) (free : (Name.ofString full).hasOwner = false) :
    (table.bind full nickname).Ownerless := by
  intro other standsFor bound
  rcases bound_of_bind bound with rfl | known
  · exact free
  · exact ownerless other standsFor known

namespace Draft

variable {d : Draft} {identity : Identity} {raw : String} {role : Role} {place : Placement}

theorem fullName_ownerless (table : d.nicknames.Ownerless)
    (free : (Name.ofString raw).hasOwner = false) :
    (Name.ofString (d.fullName raw)).hasOwner = false := by
  unfold fullName Nicknames.fullName
  cases bound : d.nicknames.get? (String.ofList (Text.trim raw.toList)) with
  | none =>
    rw [Option.getD_none, Name.ofString_trim]
    exact free
  | some full => exact table _ full bound

/-- What such a name asks for belongs to the innermost scope if it has to be created. -/
theorem owner_of_ownerless (table : d.nicknames.Ownerless) (free : (Name.ofString raw).hasOwner = false)
    (missing : d.resolve identity raw role = .missing place) : place.owner = d.nesting.scope := by
  obtain ⟨-, rfl⟩ := resolve_eq_missing_iff.mp missing
  have free := fullName_ownerless table free
  unfold request
  cases read : Name.ofString (d.fullName raw) with
  | initial | plain => rfl
  | history holder marker =>
    cases holder with
    | none => rfl
    | some holder => exact absurd read (Name.ne_history_of_hasOwner free holder marker)

/-- A nickname for a name does not change what the name itself refers to. -/
theorem resolve_bind (table : d.nicknames.Ownerless) (free : (Name.ofString raw).hasOwner = false)
    (nickname : String) :
    { d with nicknames := d.nicknames.bind raw nickname }.resolve identity raw role =
      d.resolve identity raw role := by
  -- If the name is a nickname of itself now, it is only read once more without being trimmed.
  have same : Name.ofString (d.fullName raw) =
      Name.ofString ({ d with nicknames := d.nicknames.bind raw nickname }.fullName raw) := by
    unfold fullName Nicknames.fullName
    rw [Nicknames.get?_bind]
    split
    · rename_i here
      rw [← here]
      cases d.nicknames.get? (String.ofList (Text.trim raw.toList)) with
      | none => exact Name.ofString_trim raw
      | some full => rfl
    · rfl
  have asked : d.request identity (d.fullName raw) =
      { d with nicknames := d.nicknames.bind raw nickname }.request identity
        ({ d with nicknames := d.nicknames.bind raw nickname }.fullName raw) :=
    request_congr same rfl (Name.ne_history_of_hasOwner (fullName_ownerless table free))
  rw [resolve_eq_answer, resolve_eq_answer, asked]
  rfl

end Draft

namespace Reading

variable {o : Options} {origin r between next : Reading} {number : Nat} {line : Line}
  {raw full nickname : String} {role : Role} {kind : Option Kind} {id : StateId} {s : State}
  {lines : List (Line × Nat)}

/-- A reading goes on where it is: it opens and closes nothing, and what it adds belongs to the
innermost scope. -/
structure AddsHere (r next : Reading) : Prop where
  nesting : next.draft.nesting = r.draft.nesting
  grows : r.toAnalysis.Grows next.toAnalysis
  /-- The states that were not there belong to the innermost scope. -/
  owner : ∀ i s, r.draft.registry.states.length ≤ i → next.draft.registry.states[i]? = some s →
    s.owner = r.draft.nesting.scope

namespace AddsHere

theorem of_same (same : next.draft.registry = r.draft.registry)
    (nesting : next.draft.nesting = r.draft.nesting) (diagnostics : r.diagnostics <+: next.diagnostics) :
    r.AddsHere next where
  nesting := nesting
  grows := {
    length_le := by simp [toAnalysis, same]
    states := fun i s held => ⟨s, by simpa [toAnalysis, same] using held, .refl s⟩
    diagnostics
    lastId_le := by simp [toAnalysis, same] }
  owner i s beyond held := by
    rw [same, List.getElem?_eq_none beyond] at held
    cases held

theorem refl (r : Reading) : r.AddsHere r :=
  of_same rfl rfl List.prefix_rfl

theorem trans (first : r.AddsHere between) (second : between.AddsHere next) : r.AddsHere next where
  nesting := second.nesting.trans first.nesting
  grows := first.grows.trans second.grows
  owner i s beyond held := by
    by_cases old : i < between.draft.registry.states.length
    · obtain ⟨t, there, grown⟩ := second.grows.states i _ (List.getElem?_eq_getElem old)
      obtain rfl := Option.some.inj (held.symm.trans there)
      exact grown.owner.trans (first.owner i _ beyond (List.getElem?_eq_getElem old))
    · rw [← first.nesting]
      exact second.owner i s (Nat.not_lt.mp old) held

theorem introduce (r : Reading) (number : Nat) (full nickname : String) :
    r.AddsHere (r.introduce number full nickname).2 := by
  have same := r.introduce_draft number full nickname
  refine of_same (by rw [same]) (by rw [same]) ?_
  rw [introduce_diagnostics]
  exact List.prefix_append _ _

theorem modify (r : Reading) (id : StateId) {change : State → State}
    (grows : ∀ s : State, s.Grows (change s)) : r.AddsHere (r.modify id change) where
  nesting := rfl
  grows := r.grows_modify id change grows
  owner i s beyond held := by
    obtain ⟨before, there, -⟩ := Registry.exists_of_getElem?_modify held
    rw [List.getElem?_eq_none beyond] at there
    cases there

/-- If a name is missing that is not the history of a named owner, it is created here. -/
theorem obtain (table : r.draft.nicknames.Ownerless) (free : (Name.ofString raw).hasOwner = false)
    (ran : r.obtain o number raw role kind = .ok (id, next)) : r.AddsHere next := by
  rcases obtain_eq_ok_iff.mp ran with ⟨-, rfl⟩ | ⟨place, missing, left, -, rfl⟩
  · exact refl _
  · exact {
      nesting := rfl
      grows := grows_push r _ _ _
      owner := fun i s beyond held => by
        rcases Registry.getElem?_push_eq_some.mp held with old | ⟨-, rfl⟩
        · rw [List.getElem?_eq_none beyond] at old
          cases old
        · exact Draft.owner_of_ownerless table free missing }

end AddsHere

/-- Where a line leads. One that opens a brace leads into its state, which belongs to the innermost scope
if the line creates it; a closing brace leads out of the innermost scope; any other line adds to it. -/
def Leads (o : Options) (r : Reading) (line : Line) (next : Reading) : Prop :=
  match line with
  | .composite name _ => ∃ id between, r.AddsHere between ∧ next = between.enter id ∧
      ((r.draft.resolve o.identity name .declaration).id? = none →
        ∃ s ∈ between.draft.registry.states, s.id = id ∧ s.owner = r.draft.nesting.scope)
  | .close => next = r.leave
  | _ => r.AddsHere next

private theorem enter_leads {name : String} {nickname : Option String} {last : Reading}
    (introduced : r.AddsHere between) (table : between.draft.nicknames.Ownerless)
    (free : (Name.ofString name).hasOwner = false)
    (same : between.draft.resolve o.identity name .declaration =
      r.draft.resolve o.identity name .declaration)
    (obtained : between.obtain o number name .declaration none = .ok (id, last)) :
    r.Leads o (.composite name nickname) (last.enter id) := by
  refine ⟨id, last, introduced.trans (.obtain table free obtained), rfl, ?_⟩
  intro new
  rcases obtain_eq_ok_iff.mp obtained with ⟨found, -⟩ | ⟨place, missing, -, rfl, rfl⟩
  · rw [← same, found] at new
    cases new
  · refine ⟨_, List.mem_concat_self, rfl, ?_⟩
    exact (Draft.owner_of_ownerless table free missing).trans (by rw [introduced.nesting])

theorem step_leads (table : r.draft.nicknames.Ownerless)
    (free : ∀ name ∈ line.names, (Name.ofString name).hasOwner = false)
    (ran : r.step o number line = .ok next) : r.Leads o line next := by
  cases step_reads ran with
  | composite obtained => exact enter_leads (.refl r) table (free _ List.mem_cons_self) rfl obtained
  | @compositeAliased name nickname id last obtained =>
    have freeName := free name List.mem_cons_self
    refine enter_leads (.introduce r number name nickname) ?_ freeName ?_ obtained
    · rw [introduce_nicknames]
      exact table.bind freeName
    · rw [introduce_draft]
      exact Draft.resolve_bind table freeName nickname
  | close => rfl
  | @aliased name nickname stereotype id next agrees obtained =>
    have freeName := free name List.mem_cons_self
    refine .trans (.introduce r number name nickname) (.obtain ?_ freeName obtained)
    rw [introduce_nicknames]
    exact table.bind freeName
  | refused => exact .introduce r number _ _
  | stereotyped obtained | simple obtained => exact .obtain table (free _ List.mem_cons_self) obtained
  | @described name text id between obtained =>
    have here : r.AddsHere between := .obtain table (free name List.mem_cons_self) obtained
    exact here.trans (.modify between id fun s => .annotate s text o.separator)
  | @transition source target event leaving entering left both obtainedSource obtainedTarget =>
    have tableLeft : left.draft.nicknames.Ownerless := by
      rw [obtain_nicknames obtainedSource]
      exact table
    have atSource : r.AddsHere left := .obtain table (free source (by simp [Line.names])) obtainedSource
    have atTarget : left.AddsHere both :=
      .obtain tableLeft (free target (by simp [Line.names])) obtainedTarget
    rw [addTransition_eq]
    exact (atSource.trans atTarget).trans (.modify both leaving fun s => .addTransition s _)
  | @content name text id found => exact .modify r id fun s => .annotate s text o.separator
  | unresolved => exact .of_same rfl rfl (List.prefix_append _ _)
  | ignored => exact .refl r

/-- What a line creates belongs to the scope that it is written in. -/
theorem Leads.owner (leads : r.Leads o line next) {i : Nat}
    (beyond : r.draft.registry.states.length ≤ i) (held : next.draft.registry.states[i]? = some s) :
    s.owner = r.draft.nesting.scope := by
  cases line with
  | composite name nickname =>
    obtain ⟨id, between, here, rfl, -⟩ := leads
    exact here.owner i s beyond held
  | close =>
    obtain rfl : next = r.leave := leads
    rw [show r.leave.draft.registry = r.draft.registry from rfl, List.getElem?_eq_none beyond] at held
    cases held
  | aliased | stereotyped | simple | transition | content | ignored =>
    exact AddsHere.owner leads i s beyond held

/-- The open composite states go on lying in one another, as long as braces are opened for new states
only. -/
theorem Leads.stacked (leads : r.Leads o line next)
    (new : ∀ name nickname, line = .composite name nickname →
      (r.draft.resolve o.identity name .declaration).id? = none)
    (stacked : r.draft.registry.Stacked r.draft.nesting.enclosing) :
    next.draft.registry.Stacked next.draft.nesting.enclosing := by
  cases line with
  | composite name nickname =>
    obtain ⟨id, between, here, rfl, created⟩ := leads
    obtain ⟨s, member, rfl, owned⟩ := created (new name nickname rfl)
    refine .cons member ?_ ?_
    · rw [here.nesting]
      exact owned
    · rw [here.nesting]
      exact stacked.of_grows here.grows
  | close =>
    obtain rfl : next = r.leave := leads
    exact stacked.tail
  | aliased | stereotyped | simple | transition | content | ignored =>
    rw [AddsHere.nesting leads]
    exact stacked.of_grows (AddsHere.grows leads)

/-- The open composite states lie in one another, and there are as many of them as open braces. -/
structure Braced (r : Reading) (depth : Nat) : Prop where
  ownerless : r.draft.nicknames.Ownerless
  stacked : r.draft.registry.Stacked r.draft.nesting.enclosing
  depth : r.draft.nesting.depth = depth

theorem start_braced (startingId : StateId) : (start startingId).Braced 0 where
  ownerless := Nicknames.ownerless_empty
  stacked := .nil
  depth := rfl

theorem Braced.step {depth : Nat} (braced : r.Braced depth)
    (free : ∀ name ∈ line.names, (Name.ofString name).hasOwner = false)
    (new : ∀ name nickname, line = .composite name nickname →
      (r.draft.resolve o.identity name .declaration).id? = none)
    (ran : r.step o number line = .ok next) : next.Braced (line.braces depth) where
  ownerless := by
    rw [step_nicknames ran]
    split
    · rename_i full nickname introduced
      exact braced.ownerless.bind (free full (Line.mem_names_of_introduction introduced))
    · exact braced.ownerless
  stacked := (step_leads braced.ownerless free ran).stacked new braced.stacked
  depth := (step_depth ran).trans (by rw [braced.depth])

theorem run_braced {startingId : StateId}
    (free : ∀ entry ∈ lines, ∀ name ∈ entry.1.names, (Name.ofString name).hasOwner = false)
    (new : OpensNew o (start startingId) lines) (ran : run o (start startingId) lines = .ok r) :
    r.Braced (braceDepth lines) := by
  induction lines using List.reverseRecOn generalizing r with
  | nil =>
    cases ran
    exact start_braced startingId
  | append_singleton front last ih =>
    obtain ⟨line, number⟩ := last
    rw [run_concat] at ran
    obtain ⟨before, ranFront, stepped⟩ := bind_eq_ok_iff.mp ran
    obtain ⟨freeFront, freeLast⟩ := List.forall_mem_append.mp free
    rw [braceDepth_concat]
    refine (ih freeFront new.of_append ranFront).step (freeLast _ List.mem_cons_self) ?_ stepped
    rintro name nickname rfl
    exact new name nickname number before ⟨front, [], rfl, ranFront⟩

/-- A state that a line creates lies, in the end, in as many states as there are braces open above the
line. -/
theorem depth?_of_created {startingId : StateId} {earlier later : List (Line × Nat)}
    {before after : Reading}
    (free : ∀ entry ∈ earlier ++ (line, number) :: later, ∀ name ∈ entry.1.names,
      (Name.ofString name).hasOwner = false)
    (new : OpensNew o (start startingId) (earlier ++ (line, number) :: later))
    (ranEarlier : run o (start startingId) earlier = .ok before)
    (stepped : before.step o number line = .ok after) (ranLater : run o after later = .ok r) {i : Nat}
    (beyond : before.draft.registry.states.length ≤ i) (within : i < after.draft.registry.states.length)
    (held : r.draft.registry.states[i]? = some s) :
    (Graph.ofStates r.draft.registry.states).depth? s.id = some (braceDepth earlier) := by
  obtain ⟨freeEarlier, freeOnwards⟩ := List.forall_mem_append.mp free
  have braced := run_braced freeEarlier new.of_append ranEarlier
  have leads := step_leads braced.ownerless (freeOnwards _ List.mem_cons_self) stepped
  have onwards : Moves o after r := run_moves ranLater
  have since : Moves o before r := (step_moves stepped).trans onwards
  have whole : Moves o (start startingId) r := (run_moves ranEarlier).trans since
  -- The state is still what the line made it, and the states that were open are still there.
  have made := List.getElem?_eq_getElem within
  obtain ⟨t, there, grown⟩ := onwards.grows.states i _ made
  obtain rfl := Option.some.inj (held.symm.trans there)
  have owned := grown.owner.trans (leads.owner beyond made)
  have forest := (whole.rooted (start_rooted startingId)).forest
  have stacked := braced.stacked.of_grows since.grows
  rw [← braced.depth]
  exact forest.depth?_of_stacked stacked (List.mem_of_getElem? held) owned

/-- The states come into being one line after the other. -/
theorem run_passes {count : Nat} (ran : run o origin lines = .ok r)
    (short : origin.draft.registry.states.length < count)
    (reached : count ≤ r.draft.registry.states.length) :
    ∃ earlier line number later before after, lines = earlier ++ (line, number) :: later ∧
      run o origin earlier = .ok before ∧ before.step o number line = .ok after ∧
      before.draft.registry.states.length < count ∧ count ≤ after.draft.registry.states.length := by
  induction lines generalizing origin with
  | nil =>
    cases ran
    omega
  | cons entry later ih =>
    obtain ⟨line, number⟩ := entry
    rw [run_cons] at ran
    obtain ⟨between, stepped, ranLater⟩ := bind_eq_ok_iff.mp ran
    by_cases here : count ≤ between.draft.registry.states.length
    · exact ⟨[], line, number, later, origin, between, rfl, rfl, stepped, short, here⟩
    · obtain ⟨earlier, line', number', later', before, after, rfl, ranEarlier, rest⟩ :=
        ih ranLater (Nat.not_le.mp here)
      refine ⟨(line, number) :: earlier, line', number', later', before, after, rfl, ?_, rest⟩
      rw [run_cons]
      exact bind_eq_ok_iff.mpr ⟨between, stepped, ranEarlier⟩

end Reading

section CreatedOn

variable {o : Options} {text : String} {r : Reading} {count line : Nat}

/-- Every state is created on some line. -/
theorem exists_createdOn (ran : Reading.run o (.start o.startingId.toNat) (numberedLines text) = .ok r)
    (positive : 0 < count) (reached : count ≤ r.draft.registry.states.length) :
    ∃ line, CreatedOn o text count line := by
  obtain ⟨earlier, line, number, later, before, after, split, ranEarlier, stepped, short, passed⟩ :=
    Reading.run_passes ran positive reached
  exact ⟨number, createdOn_of_split split ranEarlier stepped short passed⟩

theorem statesBefore?_eq_some_iff :
    statesBefore? o text line = some count ↔
      ∃ r, Reading.run o (.start o.startingId.toNat) ((numberedLines text).take (line - 1)) = .ok r ∧
        r.draft.registry.states.length = count := by
  unfold statesBefore?
  split <;> simp [*]

/-- A state that is created on a line is not there before the line is read and is there afterwards. -/
theorem CreatedOn.exists_step (created : CreatedOn o text count line) :
    ∃ earlier here later before after, numberedLines text = earlier ++ (here, line) :: later ∧
      (numberedLines text).take (line - 1) = earlier ∧
      Reading.run o (.start o.startingId.toNat) earlier = .ok before ∧
      before.step o line here = .ok after ∧ before.draft.registry.states.length < count ∧
      count ≤ after.draft.registry.states.length := by
  obtain ⟨_, _, countedBefore, short, countedAfter, reached⟩ := created
  obtain ⟨before, ranBefore, rfl⟩ := statesBefore?_eq_some_iff.mp countedBefore
  obtain ⟨after, ranAfter, rfl⟩ := statesBefore?_eq_some_iff.mp countedAfter
  -- There is a line with this number, since reading up to it or past it makes a difference.
  have differ : (numberedLines text).take (line + 1 - 1) ≠ (numberedLines text).take (line - 1) := by
    intro same
    rw [same, ranBefore] at ranAfter
    cases ranAfter
    omega
  have positive : 1 ≤ line := by
    by_contra zero
    exact differ (by rw [show line + 1 - 1 = line - 1 by omega])
  have within : line ≤ lineCount text := by
    rw [← numberedLines_length]
    by_contra beyond
    exact differ (by rw [List.take_of_length_le (by omega), List.take_of_length_le (by omega)])
  obtain ⟨earlier, here, later, split⟩ := exists_split positive within
  rw [take_of_split split] at ranBefore ⊢
  rw [Nat.add_sub_cancel, take_succ_of_split split, Reading.run_concat, ranBefore] at ranAfter
  exact ⟨earlier, here, later, before, after, split, rfl, ranBefore, ranAfter, short, reached⟩

end CreatedOn

/-- If every brace is opened for a new state and no history of a named owner is written, the depth of a
state is the number of braces that are open above the line that creates it. -/
theorem depth_eq_braceDepth {o : Options} {text : String} {a : Analysis} (read : analyze o text = .ok a)
    (new : OpensNew o (.start o.startingId.toNat) (numberedLines text))
    (free : ∀ entry ∈ numberedLines text, ∀ name ∈ entry.1.names, (Name.ofString name).hasOwner = false)
    (i : Nat) (s : State) (held : a.states[i]? = some s) :
    (∃ line, CreatedOn o text (i + 1) line) ∧
    ∀ line, CreatedOn o text (i + 1) line →
      (Graph.ofStates a.states).depth? s.id =
        some (braceDepth ((numberedLines text).take (line - 1))) := by
  obtain ⟨r, ran, rfl⟩ := analyze_eq_ok_iff.mp read
  have within := (List.getElem?_eq_some_iff.mp held).1
  refine ⟨exists_createdOn ran (Nat.succ_pos i) within, ?_⟩
  intro line created
  obtain ⟨earlier, here, later, before, after, split, above, ranEarlier, stepped, short, reached⟩ :=
    created.exists_step
  rw [split] at new free
  rw [split, Reading.run_split ranEarlier stepped] at ran
  rw [above]
  exact Reading.depth?_of_created free new ranEarlier stepped ran (Nat.lt_succ_iff.mp short) reached held

/-- Two nested states with pseudostates in them, braces too many, and a nickname that is in conflict. -/
def uneven : String :=
  "\x7d\nstate A \x7b\n[*] --> B\nstate \"Long\" as L \x7b\n[H] --> B\n\x7d\n\x7d\n\x7d\n" ++
    "state \"Other\" as L \x7b\nL --> C"

theorem depth_eq_braceDepth_uneven :
    ∃ a, analyze {} uneven = .ok a ∧
      a.states.map (fun s => (s.name, (Graph.ofStates a.states).depth? s.id)) =
        [("A", some 0), ("[*]", some 1), ("B", some 1), ("Long", some 1), ("[H]", some 2),
          ("Other", some 0), ("C", some 1)] ∧
      ∀ i s, a.states[i]? = some s → ∀ line, CreatedOn {} uneven (i + 1) line →
        (Graph.ofStates a.states).depth? s.id =
          some (braceDepth ((numberedLines uneven).take (line - 1))) := by
  obtain ⟨a, read, depths⟩ : ∃ a, analyze {} uneven = .ok a ∧
      a.states.map (fun s => (s.name, (Graph.ofStates a.states).depth? s.id)) =
        [("A", some 0), ("[*]", some 1), ("B", some 1), ("Long", some 1), ("[H]", some 2),
          ("Other", some 0), ("C", some 1)] := ⟨_, by cbv, by cbv⟩
  refine ⟨a, read, depths, ?_⟩
  intro i s held
  exact (depth_eq_braceDepth read (by decide +kernel) (by decide +kernel) i s held).2

end Statechart
