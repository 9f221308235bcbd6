import Statechart.Proofs.Classification
import Statechart.Proofs.Nicknames
import Statechart.Proofs.Requests

/-! No line breaks. A diagram is read line by line, and whatever a line is read as stands on it, so nothing
that is read has a line feed in it. The names of states, the labels of their kinds, the events and what is
reported are made of what was read and of fixed texts, so they stay on one line through all that follows. The
texts of the states are the exception: they are joined by a separator, which can be anything. -/
namespace Statechart

/-- A text that fits on one line. -/
def OneLine (text : String) : Prop :=
  '\n' ∉ text.toList

instance (text : String) : Decidable (OneLine text) :=
  inferInstanceAs (Decidable ('\n' ∉ text.toList))

theorem oneLine_append {first second : String} :
    OneLine (first ++ second) ↔ OneLine first ∧ OneLine second := by
  simp [OneLine]

theorem OneLine.of_isInfix {part text : String} (whole : OneLine text)
    (inside : part.toList <:+: text.toList) : OneLine part :=
  fun member => whole (inside.subset member)

/-- A number is written in digits. -/
theorem oneLine_toString (n : Nat) : OneLine (toString n) := by
  intro member
  have written : '\n' ∈ Nat.toDigits 10 n := by simpa using member
  exact absurd (Nat.isDigit_of_mem_toDigits (by decide) (by decide) written) (by decide)

/-- The lines of a text are cut at its line feeds. -/
theorem Text.not_mem_of_mem_lines {text line : List Char} (member : line ∈ lines text) : '\n' ∉ line := by
  induction text using feed_induction with
  | last whole free =>
    by_cases written : whole = []
    · subst written
      cases member
    · rw [lines_of_not_mem free written, List.mem_singleton] at member
      rwa [member]
  | feed first rest free ih =>
    rw [lines_feed rest free] at member
    rcases List.mem_cons.mp member with rfl | later
    · intro inside
      unfold stripReturn at inside
      split at inside
      · exact free (List.mem_of_mem_dropLast inside)
      · exact free inside
    · exact ih later

theorem TellsEvent.isInfix {tail : List Char} {event : Option String} (tells : TellsEvent tail event) :
    ∀ happens ∈ event, happens.toList <:+: tail := by
  intro happens member
  cases tells with
  | silent | blank => cases member
  | @named label written =>
    obtain rfl := Option.mem_some_iff.mp member
    rw [String.toList_ofList]
    exact (Text.trim_isInfix label).trans (List.suffix_cons ':' label).isInfix

namespace Line

variable {text : List Char} {line : Line}

/-- The texts that a line is read as. -/
def parts : Line → List String
  | composite name nickname => name :: nickname.toList
  | aliased name nickname stereotype => name :: nickname :: stereotype.toList
  | stereotyped name stereotype => [name, stereotype]
  | simple name remark => name :: remark.toList
  | close => []
  | transition source target event => source :: target :: event.toList
  | content name remark => [name, remark]
  | ignored => []

theorem Declared.parts_isInfix (declared : Declared text line) :
    ∀ part ∈ line.parts, part.toList <:+: text := by
  cases declared with
  | ignored => simp [parts]
  | composite named short =>
    simpa [parts] using ⟨named.inside, fun word member => (short word member).inside⟩
  | aliased named short labelled =>
    simpa [parts] using ⟨named.inside, short.inside, fun label member => (labelled label member).inside⟩
  | stereotyped named written labelled => simpa [parts] using ⟨named.inside, labelled.inside⟩
  | simple named written inside => simpa [parts] using ⟨named.inside, inside⟩

/-- Both names of a transition and its event stand on its line. -/
theorem transition_isInfix {source target : String} {event : Option String}
    (spelled : SpellsTransition text source target event) :
    ∀ part ∈ (transition source target event).parts, part.toList <:+: text := by
  obtain ⟨-, -, -, gap, arrow, opening, closing, tail, -, -, -, -, tells, rfl, -⟩ := spelled
  intro part member
  simp only [parts] at member
  rcases List.mem_cons.mp member with rfl | member
  · exact ⟨[], gap ++ arrow ++ opening ++ target.toList ++ closing ++ tail, by simp⟩
  · rcases List.mem_cons.mp member with rfl | member
    · exact ⟨source.toList ++ gap ++ arrow ++ opening, closing ++ tail, by simp⟩
    · exact (tells.isInfix part (Option.mem_toList.mp member)).trans (List.suffix_append _ tail).isInfix

theorem content_isInfix {name remark : String} (spelled : SpellsContent text name remark) :
    ∀ part ∈ (content name remark).parts, part.toList <:+: text := by
  obtain ⟨-, -, -, gap, tail, -, rfl, rfl⟩ := spelled
  intro part member
  simp only [parts] at member
  rcases List.mem_pair.mp member with rfl | rfl
  · exact ⟨[], gap ++ ':' :: tail, by simp⟩
  · rw [String.toList_ofList]
    exact (Text.trim_isInfix tail).trans ⟨name.toList ++ gap ++ [':'], [], by simp⟩

/-- Whatever a line is read as stands on it. -/
theorem classify_parts_isInfix (line : String) :
    ∀ part ∈ (classify line).parts, part.toList <:+: line.toList := by
  suffices inside : ∀ part ∈ (classify line).parts, part.toList <:+: Text.trim line.toList from
    fun part member => (inside part member).trans (Text.trim_isInfix _)
  by_cases declares : (classify line).isDeclaration = true
  · exact (declared_of_isDeclaration declares).2.parts_isInfix
  · cases read : classify line with
    | composite | aliased | stereotyped | simple =>
      rw [read] at declares
      exact absurd rfl declares
    | close | ignored => simp [parts]
    | transition source target event =>
      exact transition_isInfix ((ofTrimmed_eq_transition_iff (Text.trim_trim _)).mp read).2
    | content name text =>
      exact content_isInfix ((ofTrimmed_eq_content_iff (Text.trim_trim _)).mp read).2

end Line

/-- So nothing that is read has a line feed in it. -/
theorem oneLine_of_mem_parts {text : String} {entry : Line × Nat} (member : entry ∈ numberedLines text) :
    ∀ part ∈ entry.1.parts, OneLine part := by
  intro part inside
  obtain ⟨line, there, read⟩ := exists_line_of_mem member
  rw [read] at inside
  have whole : OneLine (String.ofList line) := by
    rw [OneLine, String.toList_ofList]
    exact Text.not_mem_of_mem_lines there
  exact whole.of_isInfix (Line.classify_parts_isInfix _ part inside)

/-! What is made of it. -/

namespace Name

/-- The marker of a history stands in what was written. -/
theorem marker_isInfix {raw marker : String} {owner : Option String}
    (read : ofString raw = .history owner marker) : marker.toList <:+: raw.toList := by
  refine List.IsInfix.trans ?_ (Text.trim_isInfix raw.toList)
  obtain ⟨_, _, split, -, rfl⟩ := ofString_eq_history_iff.mp read
  obtain ⟨before, inside, after, shape, -, -, -, -, rfl⟩ := splitHistory_eq_some_iff.mp split
  exact ⟨before, after, by simp [shape]⟩

theorem initialMark_isInfix {raw : String} (read : ofString raw = .initial) :
    initialMark.toList <:+: raw.toList := by
  rw [← ofString_eq_initial_iff.mp read]
  exact Text.trim_isInfix _

end Name

/-- The name that a request is for stands in what was written. -/
theorem Draft.request_name_isInfix (d : Draft) (identity : Identity) (written : String) :
    (d.request identity written).name.toList <:+: written.toList := by
  unfold request
  cases read : Name.ofString written with
  | initial => exact Name.initialMark_isInfix read
  | history owner marker =>
    cases owner with
    | none => exact Name.marker_isInfix read
    | some owner =>
      dsimp only
      split
      · exact Name.marker_isInfix read
      · exact List.infix_rfl
  | plain name =>
    rw [Name.eq_trim_of_plain read]
    simpa [Request.name] using Text.trim_isInfix written.toList

/-- A kind whose label, if it has one of its own, fits on one line. -/
def Kind.Unbroken (kind : Kind) : Prop :=
  ∀ label, kind = .custom label → OneLine label

theorem Kind.unbroken_ofStereotype {text : String} (whole : OneLine text) :
    (ofStereotype text).Unbroken := by
  intro label read
  unfold ofStereotype at read
  dsimp only at read
  split at read <;> cases read
  exact whole.of_isInfix (by simpa using Text.trim_isInfix text.toList)

/-- Only a declaration can bring a label. -/
theorem Request.kind_unbroken (q : Request) : q.kind.Unbroken := by
  intro label labels
  cases q <;> cases labels

/-- A state whose name, label and events fit on one line. -/
structure State.Unbroken (s : State) : Prop where
  name : OneLine s.name
  kind : s.kind.Unbroken
  events : ∀ t ∈ s.transitions, ∀ event ∈ t.event, OneLine event

namespace Issue

variable {name nickname existing requested : String}

theorem oneLine_unresolvedReference (whole : OneLine name) : OneLine (unresolvedReference name).message := by
  show OneLine (_ ++ name ++ _)
  simpa [OneLine] using whole

theorem oneLine_aliasConflict (short : OneLine nickname) (first : OneLine existing)
    (second : OneLine requested) : OneLine (aliasConflict nickname existing requested).message := by
  show OneLine (_ ++ nickname ++ _ ++ existing ++ _ ++ requested ++ _)
  simp only [oneLine_append, short, first, second]
  simp [OneLine]

end Issue

theorem Diagnostic.oneLine_message {d : Diagnostic} (whole : OneLine d.issue.message) : OneLine d.message := by
  show OneLine (_ ++ toString d.line ++ _ ++ d.issue.message)
  simp only [oneLine_append, oneLine_toString, whole]
  simp [OneLine]

namespace Reading

variable {o : Options} {r next : Reading} {number : Nat} {line : Line} {id : StateId}
  {raw full nickname : String} {role : Role} {kind : Option Kind}

/-- Nothing that has been made of the lines has a line feed in it, but for the texts of the states. -/
structure Unbroken (r : Reading) : Prop where
  states : ∀ s ∈ r.draft.registry.states, s.Unbroken
  /-- Names that nicknames stand for become names of states. -/
  fullNames : ∀ nickname full, r.draft.nicknames.get? nickname = some full → OneLine full
  messages : ∀ d ∈ r.diagnostics, OneLine d.message

namespace Unbroken

theorem start (startingId : StateId) : (start startingId).Unbroken where
  states _ member := nomatch member
  fullNames _ _ bound := nomatch bound
  messages _ member := nomatch member

theorem report {issue : Issue} (unbroken : r.Unbroken) (number : Nat) (whole : OneLine issue.message) :
    (r.report number issue).Unbroken where
  states := unbroken.states
  fullNames := unbroken.fullNames
  messages d member := by
    rcases List.mem_append.mp member with old | fresh
    · exact unbroken.messages d old
    · obtain rfl := List.mem_singleton.mp fresh
      exact Diagnostic.oneLine_message whole

/-- A change that leaves states unbroken leaves the reading so. -/
theorem modify {change : State → State} (unbroken : r.Unbroken) (id : StateId)
    (kept : ∀ s, s.Unbroken → (change s).Unbroken) : (r.modify id change).Unbroken where
  states s member := by
    obtain ⟨before, there, rfl | rfl⟩ := Registry.exists_of_mem_modify member
    · exact unbroken.states _ there
    · exact kept before (unbroken.states before there)
  fullNames := unbroken.fullNames
  messages := unbroken.messages

/-- A text does not show on any other line than its own. -/
theorem annotate (unbroken : r.Unbroken) (id : StateId) (text : String) : (r.annotate o id text).Unbroken :=
  unbroken.modify id fun _ before => ⟨before.name, before.kind, before.events⟩

theorem addTransition {t : Transition} (unbroken : r.Unbroken) (whole : ∀ event ∈ t.event, OneLine event) :
    (r.addTransition t).Unbroken := by
  rw [addTransition_eq]
  refine unbroken.modify t.source fun s before => ⟨before.name, before.kind, fun other member => ?_⟩
  rcases List.mem_append.mp member with old | fresh
  · exact before.events other old
  · obtain rfl := List.mem_singleton.mp fresh
    exact whole

theorem introduce (unbroken : r.Unbroken) (number : Nat) (whole : OneLine full) (short : OneLine nickname) :
    (r.introduce number full nickname).2.Unbroken := by
  refine ⟨?_, fun other standsFor bound => ?_, ?_⟩
  · rw [introduce_draft]
    exact unbroken.states
  · rw [introduce_nicknames] at bound
    rcases Nicknames.bound_of_bind bound with rfl | known
    · exact whole
    · exact unbroken.fullNames other standsFor known
  · obtain ⟨-, result⟩ | ⟨-, result⟩ | ⟨existing, bound, -, result⟩ :=
      r.introduce_cases number full nickname
    · rw [result]
      exact unbroken.messages
    · rw [result]
      exact unbroken.messages
    · rw [result]
      have first := unbroken.fullNames nickname existing bound
      exact (unbroken.report number (Issue.oneLine_aliasConflict short first whole)).messages

theorem oneLine_fullName (unbroken : r.Unbroken) (whole : OneLine raw) : OneLine (r.draft.fullName raw) := by
  unfold Draft.fullName Nicknames.fullName
  cases bound : r.draft.nicknames.get? (String.ofList (Text.trim raw.toList)) with
  | none => exact whole.of_isInfix (by simpa using Text.trim_isInfix raw.toList)
  | some full => exact unbroken.fullNames _ full bound

/-- What a state is called that is created stands in what was written or in what that is a nickname for. -/
theorem obtain (unbroken : r.Unbroken) (whole : OneLine raw) (labelled : ∀ kind' ∈ kind, kind'.Unbroken)
    (ran : r.obtain o number raw role kind = .ok (id, next)) : next.Unbroken := by
  rcases obtain_eq_ok_iff.mp ran with ⟨-, rfl⟩ | ⟨place, missing, -, -, rfl⟩
  · exact unbroken
  · obtain ⟨-, rfl⟩ := Draft.resolve_eq_missing_iff.mp missing
    have written := unbroken.oneLine_fullName whole
    refine ⟨fun s member => ?_, unbroken.fullNames, unbroken.messages⟩
    rcases List.mem_append.mp member with old | fresh
    · exact unbroken.states s old
    · obtain rfl := List.mem_singleton.mp fresh
      refine ⟨?_, ?_, fun t inside => nomatch inside⟩
      · rw [State.blank, Request.placement_name]
        exact written.of_isInfix (r.draft.request_name_isInfix o.identity _)
      · rw [State.blank, Request.placement_kind]
        cases kind with
        | none => exact Request.kind_unbroken _
        | some declared => exact labelled declared rfl

/-- A line that has nothing on it but what fits on one line keeps all that so. -/
theorem step (unbroken : r.Unbroken) (whole : ∀ part ∈ line.parts, OneLine part)
    (ran : r.step o number line = .ok next) : next.Unbroken := by
  have bare : ∀ kind ∈ (none : Option Kind), kind.Unbroken := by simp
  cases step_reads ran with
  | composite obtained =>
    have kept := unbroken.obtain (whole _ List.mem_cons_self) bare obtained
    exact ⟨kept.states, kept.fullNames, kept.messages⟩
  | @compositeAliased name nickname id between obtained =>
    obtain ⟨named, short⟩ : OneLine name ∧ OneLine nickname := by simpa [Line.parts] using whole
    have kept := (unbroken.introduce number named short).obtain named bare obtained
    exact ⟨kept.states, kept.fullNames, kept.messages⟩
  | close => exact ⟨unbroken.states, unbroken.fullNames, unbroken.messages⟩
  | @aliased name nickname stereotype id next agrees obtained =>
    obtain ⟨named, short, labelled⟩ :
        OneLine name ∧ OneLine nickname ∧ ∀ label ∈ stereotype, OneLine label := by
      simpa [Line.parts] using whole
    refine (unbroken.introduce number named short).obtain named ?_ obtained
    rintro kind member
    obtain ⟨label, there, rfl⟩ := Option.map_eq_some_iff.mp member
    exact Kind.unbroken_ofStereotype (labelled label there)
  | @refused name nickname stereotype conflicts =>
    obtain ⟨named, short, -⟩ :
        OneLine name ∧ OneLine nickname ∧ ∀ label ∈ stereotype, OneLine label := by
      simpa [Line.parts] using whole
    exact unbroken.introduce number named short
  | @stereotyped name stereotype id next obtained =>
    obtain ⟨named, labelled⟩ : OneLine name ∧ OneLine stereotype := by simpa [Line.parts] using whole
    exact unbroken.obtain named (by simpa using Kind.unbroken_ofStereotype labelled) obtained
  | simple obtained => exact unbroken.obtain (whole _ List.mem_cons_self) bare obtained
  | described obtained => exact (unbroken.obtain (whole _ List.mem_cons_self) bare obtained).annotate _ _
  | @transition source target event leaving entering left both obtainedSource obtainedTarget =>
    obtain ⟨start, ended, happens⟩ :
        OneLine source ∧ OneLine target ∧ ∀ label ∈ event, OneLine label := by
      simpa [Line.parts] using whole
    exact ((unbroken.obtain start bare obtainedSource).obtain ended bare obtainedTarget).addTransition happens
  | content => exact unbroken.annotate _ _
  | unresolved =>
    exact unbroken.report number (Issue.oneLine_unresolvedReference (whole _ List.mem_cons_self))
  | ignored => exact unbroken

theorem run {lines : List (Line × Nat)} (unbroken : r.Unbroken)
    (whole : ∀ entry ∈ lines, ∀ part ∈ entry.1.parts, OneLine part)
    (ran : run o r lines = .ok next) : next.Unbroken :=
  run_preserves ran (fun entry member _ _ stepped unbroken => unbroken.step (whole entry member) stepped)
    unbroken

end Unbroken

end Reading

/-- Whatever a diagram says fits on one line, but for the texts of its states. -/
theorem unbroken_of_analyze {o : Options} {text : String} {a : Analysis} (read : analyze o text = .ok a) :
    (∀ s ∈ a.states, s.Unbroken) ∧ ∀ d ∈ a.diagnostics, OneLine d.message := by
  obtain ⟨r, ran, rfl⟩ := analyze_eq_ok_iff.mp read
  have unbroken := (Reading.Unbroken.start _).run (fun _ member => oneLine_of_mem_parts member) ran
  exact ⟨unbroken.states, unbroken.messages⟩

end Statechart
