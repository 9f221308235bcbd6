import Statechart.Proofs.Conservation
import Statechart.Proofs.Lines

/-! What is reported. A line has a problem if its nickname stands for something else, or if it is a
text for a name that refers to nothing, and which problem it has depends on what was read before it
but not on what was reported. A line that is read reports its problem and nothing else, so a report
tells which lines had a problem, and the rest of a diagram does not depend on the report. Whether a
text for an unknown name ends the reading or is passed over makes no difference before the first such
text, and that one is where the reading ends. -/
namespace Statechart

namespace Issue

/-- A text is meant for a state that no line before has mentioned. -/
def isUnresolved : Issue → Bool
  | unresolvedReference _ => true
  | _ => false

/-- A nickname that stands for one name is introduced for another. -/
def isConflict : Issue → Bool
  | aliasConflict .. => true
  | _ => false

end Issue

namespace Line

/-- The declaration of a composite state, which opens a scope. -/
def isComposite : Line → Bool
  | composite .. => true
  | _ => false

/-- The declaration of a state with a nickname. -/
def isAliased : Line → Bool
  | aliased .. => true
  | _ => false

/-- A text for a state. -/
def isContent : Line → Bool
  | content .. => true
  | _ => false

theorem isComposite_eq_false {line : Line} (other : line.isAliased ∨ line.isContent) :
    line.isComposite = false := by
  cases line with
  | composite => simp [isAliased, isContent] at other
  | _ => rfl

end Line

/-- What is wrong with introducing a nickname. -/
def Nicknames.conflict? (table : Nicknames) (full nickname : String) : Option Issue :=
  match table.introduce full nickname with
  | .ok _ => none
  | .error issue => some issue

/-- What is wrong with a line at this point of a diagram. -/
def Draft.issue? (d : Draft) (identity : Identity) : Line → Option Issue
  | .composite full (some nickname) | .aliased full nickname _ =>
    d.nicknames.conflict? full nickname
  | .content name _ =>
    if d.resolve identity name .declaration |>.id?.isSome then none
    else some (.unresolvedReference name)
  | _ => none

theorem Nicknames.isConflict_of_conflict? {table : Nicknames} {full nickname : String} {issue : Issue}
    (wrong : table.conflict? full nickname = some issue) : issue.isConflict := by
  unfold conflict? introduce at wrong
  split at wrong
  · cases wrong
  · rename_i failed
    split at failed
    · cases failed
    · split at failed
      · cases failed
      · cases failed
        cases wrong
        rfl

/-- Declarations with a nickname have problems of one kind, texts have problems of the other, and a
line has no others. -/
theorem Draft.kind_of_issue? {d : Draft} {identity : Identity} {line : Line} {issue : Issue}
    (wrong : d.issue? identity line = some issue) :
    issue.isConflict = (line.isComposite || line.isAliased) ∧ issue.isUnresolved = line.isContent ∧
      (issue.isConflict ∨ issue.isUnresolved) := by
  have nicknamed {full nickname : String}
      (taken : d.nicknames.conflict? full nickname = some issue) :
      issue.isConflict = true ∧ issue.isUnresolved = false := by
    have conflict := Nicknames.isConflict_of_conflict? taken
    cases issue with
    | aliasConflict => exact ⟨rfl, rfl⟩
    | unresolvedReference | identifierOverflow => cases conflict
  cases line with
  | composite name nickname =>
    cases nickname with
    | none => cases wrong
    | some nickname =>
      obtain ⟨conflict, resolved⟩ := nicknamed wrong
      exact ⟨conflict, resolved, .inl conflict⟩
  | aliased name nickname stereotype =>
    obtain ⟨conflict, resolved⟩ := nicknamed wrong
    exact ⟨conflict, resolved, .inl conflict⟩
  | content name text =>
    simp only [issue?] at wrong
    split at wrong
    · cases wrong
    · cases wrong
      exact ⟨rfl, rfl, .inr rfl⟩
  | close | stereotyped | simple | transition | ignored => cases wrong

namespace Reading

variable {o : Options} {r next : Reading} {number : Nat} {line : Line} {raw : String} {role : Role}
  {kind : Option Kind} {id : StateId} {reported : List Diagnostic} {issue : Issue}

/-- What a line adds to the report if it is read at this point. -/
def reports (o : Options) (r : Reading) (number : Nat) (line : Line) : List Diagnostic :=
  (r.draft.issue? o.identity line).toList.map fun issue => { line := number, issue }

theorem mem_reports_iff {d : Diagnostic} : d ∈ r.reports o number line ↔
    d.line = number ∧ r.draft.issue? o.identity line = some d.issue := by
  unfold reports
  rw [List.mem_map]
  constructor
  · rintro ⟨issue, wrong, rfl⟩
    exact ⟨rfl, Option.mem_toList.mp wrong⟩
  · rintro ⟨rfl, wrong⟩
    exact ⟨d.issue, Option.mem_toList.mpr wrong, rfl⟩

/-- The same diagram with more reported before. -/
def after (r : Reading) (reported : List Diagnostic) : Reading :=
  { r with diagnostics := reported ++ r.diagnostics }

theorem obtain_after (reported : List Diagnostic) (o : Options) (r : Reading) (number : Nat)
    (raw : String) (role : Role) (kind : Option Kind) :
    (r.after reported).obtain o number raw role kind =
      (fun result => (result.1, result.2.after reported)) <$> r.obtain o number raw role kind := by
  unfold obtain
  rw [show (r.after reported).draft = r.draft from rfl]
  cases r.draft.obtain o.identity raw role kind <;> rfl

theorem introduce_after (reported : List Diagnostic) (r : Reading) (number : Nat)
    (full nickname : String) :
    (r.after reported).introduce number full nickname =
      ((r.introduce number full nickname).1, (r.introduce number full nickname).2.after reported) := by
  unfold introduce
  rw [show (r.after reported).draft = r.draft from rfl]
  cases r.draft.nicknames.introduce full nickname with
  | ok => rfl
  | error issue => simp [report, after]

@[simp] theorem enter_diagnostics (r : Reading) (id : StateId) :
    (r.enter id).diagnostics = r.diagnostics := rfl

@[simp] theorem leave_diagnostics (r : Reading) : r.leave.diagnostics = r.diagnostics := rfl

@[simp] theorem annotate_diagnostics (o : Options) (r : Reading) (id : StateId) (text : String) :
    (r.annotate o id text).diagnostics = r.diagnostics := rfl

@[simp] theorem addTransition_diagnostics (r : Reading) (t : Transition) :
    (r.addTransition t).diagnostics = r.diagnostics := rfl

/-- What was reported before does not matter to a line. -/
theorem step_after (reported : List Diagnostic) (o : Options) (r : Reading) (number : Nat)
    (line : Line) :
    (r.after reported).step o number line = (·.after reported) <$> r.step o number line := by
  cases line with
  | composite name nickname =>
    cases nickname with
    | none =>
      simp only [step, obtain_after, bind_map_left, map_bind]
      rfl
    | some nickname =>
      simp only [step, introduce_after, obtain_after, bind_map_left, map_bind]
      rfl
  | close => rfl
  | aliased name nickname stereotype =>
    simp only [step, introduce_after]
    generalize r.introduce number name nickname = result
    obtain ⟨accepted, between⟩ := result
    cases accepted with
    | true =>
      simp only [obtain_after, bind_map_left, map_bind]
      rfl
    | false => rfl
  | stereotyped name stereotype =>
    simp only [step, obtain_after, bind_map_left, map_bind]
    rfl
  | simple name content =>
    simp only [step, obtain_after, bind_map_left, map_bind]
    cases content <;> rfl
  | transition source target event =>
    simp only [step, obtain_after, bind_map_left, map_bind]
    rfl
  | content name text =>
    simp only [step, show (r.after reported).draft = r.draft from rfl]
    split
    · rfl
    · split
      · rfl
      · simp [report, after]
  | ignored => rfl

theorem obtain_diagnostics (ran : r.obtain o number raw role kind = .ok (id, next)) :
    next.diagnostics = r.diagnostics := by
  rcases obtain_eq_ok_iff.mp ran with ⟨-, rfl⟩ | ⟨place, -, -, -, rfl⟩ <;> rfl

theorem introduce_diagnostics (r : Reading) (number : Nat) (full nickname : String) :
    (r.introduce number full nickname).2.diagnostics = r.diagnostics ++
      (r.draft.nicknames.conflict? full nickname).toList.map fun issue => { line := number, issue } := by
  unfold introduce Nicknames.conflict?
  cases r.draft.nicknames.introduce full nickname <;> simp [report]

/-- A nickname that stands for something else is reported and not bound. -/
theorem introduce_of_conflict? {full nickname : String}
    (wrong : r.draft.nicknames.conflict? full nickname = some issue) (number : Nat) :
    r.introduce number full nickname = (false, r.report number issue) := by
  unfold Nicknames.conflict? at wrong
  unfold introduce
  cases result : r.draft.nicknames.introduce full nickname with
  | ok =>
    rw [result] at wrong
    cases wrong
  | error =>
    rw [result] at wrong
    cases wrong
    rfl

/-- A line that is read reports its problem and nothing else. -/
theorem step_diagnostics (ran : r.step o number line = .ok next) :
    next.diagnostics = r.diagnostics ++ r.reports o number line := by
  unfold reports
  cases step_reads ran with
  | composite obtained | stereotyped obtained | simple obtained | described obtained =>
    have same := obtain_diagnostics obtained
    simpa [Draft.issue?] using same
  | compositeAliased obtained | aliased agrees obtained =>
    exact (obtain_diagnostics obtained).trans (r.introduce_diagnostics number _ _)
  | refused => exact r.introduce_diagnostics number _ _
  | transition obtainedSource obtainedTarget =>
    have same := (obtain_diagnostics obtainedTarget).trans (obtain_diagnostics obtainedSource)
    simpa [Draft.issue?] using same
  | content found => simp [Draft.issue?, found, Resolution.id?]
  | unresolved missing => simp [Draft.issue?, missing, Resolution.id?, report]
  | close | ignored => simp [Draft.issue?]

/-- A composite state is entered even if its nickname is in conflict. Any other line that has a
problem and is read does nothing but report it. -/
theorem step_of_issue (wrong : r.draft.issue? o.identity line = some issue)
    (ran : r.step o number line = .ok next) (simple : line.isComposite = false) :
    next = r.report number issue := by
  cases step_reads ran with
  | composite | compositeAliased => cases simple
  | aliased agrees =>
    rw [introduce_of_conflict? wrong number] at agrees
    cases agrees
  | refused => rw [introduce_of_conflict? wrong number]
  | content found => simp [Draft.issue?, found, Resolution.id?] at wrong
  | unresolved missing =>
    obtain rfl : Issue.unresolvedReference _ = issue := by
      simpa [Draft.issue?, missing, Resolution.id?] using wrong
    rfl
  | close | stereotyped | simple | described | transition | ignored => cases wrong

/-- With other problems reported before, a line does the same and reports its problem after them. -/
theorem step_reported (ran : r.step o number line = .ok next) (reported : List Diagnostic) :
    step o { r with diagnostics := reported } number line =
      .ok { next with diagnostics := reported ++ r.reports o number line } := by
  let bare : Reading := { r with diagnostics := [] }
  have whole : bare.after r.diagnostics = r := by simp [bare, after]
  have other : bare.after reported = { r with diagnostics := reported } := by simp [bare, after]
  have split := step_after r.diagnostics o bare number line
  rw [whole, ran] at split
  cases stepped : bare.step o number line with
  | error d =>
    rw [stepped] at split
    cases split
  | ok unreported =>
    rw [stepped] at split
    cases split
    rw [← other, step_after, stepped, show r.reports o number line = bare.reports o number line from rfl]
    have added := step_diagnostics stepped
    simp only [bare, List.nil_append] at added
    rw [← added]
    rfl

variable {origin : Reading} {front lines : List (Line × Nat)} {last entry : Line × Nat}

/-- One of some lines is about to be read, or else the last one is. -/
theorem reachedAt_concat_iff : ReachedAt o origin (front ++ [last]) entry r ↔
    ReachedAt o origin front entry r ∨ entry = last ∧ run o origin front = .ok r := by
  constructor
  · rintro ⟨earlier, later, split, ran⟩
    rcases List.eq_nil_or_concat later with rfl | ⟨middle, final, rfl⟩
    · obtain ⟨rfl, same⟩ := List.append_inj' split rfl
      obtain rfl := List.singleton_inj.mp same
      exact .inr ⟨rfl, ran⟩
    · left
      rw [List.concat_eq_append, ← List.cons_append, ← List.append_assoc] at split
      exact ⟨earlier, middle, (List.append_inj' split rfl).1, ran⟩
  · rintro (reached | ⟨rfl, ran⟩)
    · exact reached.append [last]
    · exact ⟨front, [], rfl, ran⟩

/-- Something is so where some lines are reached exactly if it is so before the last one, or there. -/
theorem exists_reachedAt_concat_iff {P : Line × Nat → Reading → Prop} {before : Reading}
    (ran : run o origin front = .ok before) :
    (∃ entry r, ReachedAt o origin (front ++ [last]) entry r ∧ P entry r) ↔
      (∃ entry r, ReachedAt o origin front entry r ∧ P entry r) ∨ P last before := by
  simp only [reachedAt_concat_iff, or_and_right, exists_or]
  refine or_congr_right ?_
  constructor
  · rintro ⟨_, there, ⟨rfl, ranThere⟩, holds⟩
    cases ran.symm.trans ranThere
    exact holds
  · intro holds
    exact ⟨last, before, ⟨rfl, ran⟩, holds⟩

/-- What is reported in the end is what was reported before and the problem of every line that has
one. -/
theorem run_diagnostics_iff (ran : run o origin lines = .ok next) {d : Diagnostic} :
    d ∈ next.diagnostics ↔ d ∈ origin.diagnostics ∨
      ∃ entry before, ReachedAt o origin lines entry before ∧ d ∈ before.reports o entry.2 entry.1 := by
  induction lines using List.reverseRecOn generalizing next with
  | nil =>
    cases ran
    simp [ReachedAt]
  | append_singleton front last ih =>
    obtain ⟨line, number⟩ := last
    rw [run_concat] at ran
    obtain ⟨before, ranFront, stepped⟩ := bind_eq_ok_iff.mp ran
    rw [step_diagnostics stepped, List.mem_append, ih ranFront, exists_reachedAt_concat_iff ranFront,
      or_assoc]

/-- A line of a diagram is reached once. -/
theorem ReachedAt.unique {text : String} {line' : Line} {before before' : Reading}
    (reached : ReachedAt o origin (numberedLines text) (line, number) before)
    (reached' : ReachedAt o origin (numberedLines text) (line', number) before') :
    line = line' ∧ before = before' := by
  obtain ⟨earlier, later, split, ran⟩ := reached
  obtain ⟨earlier', later', split', ran'⟩ := reached'
  obtain ⟨rfl, rfl⟩ := split_unique split split'
  cases ran.symm.trans ran'
  exact ⟨rfl, rfl⟩

end Reading

/-- The same way of reading, but a text for an unknown state ends it. -/
def Options.aborting (o : Options) : Options :=
  { o with onUnresolved := .abort }

/-- The same way of reading, but a text for an unknown state is passed over. -/
def Options.skipping (o : Options) : Options :=
  { o with onUnresolved := .skip }

@[simp] theorem Options.aborting_identity (o : Options) : o.aborting.identity = o.identity := rfl

@[simp] theorem Options.skipping_identity (o : Options) : o.skipping.identity = o.identity := rfl

/-- The first text for an unknown state that was passed over. -/
def firstUnresolved? (diagnostics : List Diagnostic) : Option Diagnostic :=
  diagnostics.find? fun d => d.issue.isUnresolved

theorem firstUnresolved?_append (earlier later : List Diagnostic) :
    firstUnresolved? (earlier ++ later) = (firstUnresolved? earlier).or (firstUnresolved? later) :=
  List.find?_append

namespace Reading

variable {o : Options} {r next origin : Reading} {number : Nat} {line : Line} {d : Diagnostic}
  {lines : List (Line × Nat)}

/-- The line that has such a problem is a text for a name that refers to nothing. -/
theorem firstUnresolved?_reports_iff : firstUnresolved? (r.reports o number line) = some d ↔
    ∃ name text, line = .content name text ∧
      (r.draft.resolve o.identity name .declaration).id? = none ∧
      d = { line := number, issue := .unresolvedReference name } := by
  have quiet (other : line.isContent = false) :
      firstUnresolved? (r.reports o number line) = none := by
    apply List.find?_eq_none.mpr
    intro d member
    rw [(Draft.kind_of_issue? (mem_reports_iff.mp member).2).2.1, other]
    exact Bool.false_ne_true
  cases line with
  | content name text =>
    cases hit : (r.draft.resolve o.identity name .declaration).id? with
    | none => simp [reports, Draft.issue?, hit, firstUnresolved?, Issue.isUnresolved, eq_comm]
    | some id => simp [reports, Draft.issue?, hit, firstUnresolved?]
  | _ => simp [quiet rfl]

/-- Only a text for an unknown state is treated in different ways. -/
theorem step_aborting (o : Options) (r : Reading) (number : Nat) (line : Line) :
    r.step o.aborting number line =
      match firstUnresolved? (r.reports o number line) with
      | none => r.step o.skipping number line
      | some d => .error d := by
  cases hit : firstUnresolved? (r.reports o number line) with
  | some d =>
    obtain ⟨name, text, rfl, unknown, rfl⟩ := firstUnresolved?_reports_iff.mp hit
    simp only [step, Options.aborting_identity, unknown]
    rfl
  | none =>
    cases line with
    | content name text =>
      cases known : (r.draft.resolve o.identity name .declaration).id? with
      | none =>
        have unresolved : firstUnresolved? (r.reports o number (.content name text)) = some _ :=
          firstUnresolved?_reports_iff.mpr ⟨name, text, rfl, known, rfl⟩
        cases hit.symm.trans unresolved
      | some id =>
        simp only [step, Options.aborting_identity, Options.skipping_identity, known]
        rfl
    | _ => rfl

/-- The diagram that ends at the first text for an unknown state is the one that passes over such
texts, cut off there. -/
theorem run_aborting (clean : firstUnresolved? origin.diagnostics = none)
    (ran : run o.skipping origin lines = .ok next) :
    run o.aborting origin lines =
      match firstUnresolved? next.diagnostics with
      | none => .ok next
      | some d => .error d := by
  induction lines using List.reverseRecOn generalizing next with
  | nil =>
    cases ran
    rw [clean]
    rfl
  | append_singleton front last ih =>
    obtain ⟨line, number⟩ := last
    rw [run_concat] at ran
    obtain ⟨before, ranFront, stepped⟩ := bind_eq_ok_iff.mp ran
    have reported : next.diagnostics = before.diagnostics ++ before.reports o number line :=
      step_diagnostics (o := o.skipping) stepped
    rw [run_concat, ih ranFront, reported, firstUnresolved?_append]
    cases firstUnresolved? before.diagnostics with
    | some d => rfl
    | none =>
      show before.step o.aborting number line = _
      rw [step_aborting, stepped, Option.none_or]

/-- Where one runs out of numbers, the other does too, unless it has ended before. -/
theorem run_aborting_of_error {text : String} (clean : firstUnresolved? origin.diagnostics = none)
    (ran : run o.skipping origin (numberedLines text) = .error d) :
    run o.aborting origin (numberedLines text) = .error d ∨
      ∃ number name, number < d.line ∧ run o.aborting origin (numberedLines text) =
        .error { line := number, issue := .unresolvedReference name } := by
  obtain ⟨earlier, line, number, later, between, split, ranEarlier, failed⟩ := run_error ran
  have cut := run_aborting clean ranEarlier
  rw [split, run_append]
  cases hit : firstUnresolved? between.diagnostics with
  | none =>
    left
    rw [hit] at cut
    rw [cut]
    show run o.aborting between ((line, number) :: later) = _
    rw [run_cons, step_aborting]
    cases unresolved : firstUnresolved? (between.reports o number line) with
    | none =>
      dsimp only
      rw [failed]
      rfl
    | some d =>
      obtain ⟨name, text, rfl, unknown, -⟩ := firstUnresolved?_reports_iff.mp unresolved
      simp only [step, Options.skipping_identity, unknown] at failed
      cases failed
  | some e =>
    right
    rw [hit] at cut
    obtain ⟨entry, member, blamed⟩ := run_error_line cut
    have before := number_lt_of_split split member
    rw [← blamed, ← step_error_line failed] at before
    have unresolved := List.find?_some hit
    obtain ⟨place, issue⟩ := e
    cases issue with
    | unresolvedReference name =>
      refine ⟨place, name, before, ?_⟩
      rw [cut]
      rfl
    | aliasConflict | identifierOverflow => cases unresolved

end Reading

/-- If a diagram is read with texts for unknown states passed over, and there are none, it is the same
when they end the reading; if there are some, the first one is where the reading ends. If the diagram
cannot be read even so, numbers run out, and the other way of reading it ends there or before. -/
theorem abort_is_skip_cut (o : Options) (text : String) :
    match analyze o.skipping text with
    | .ok a =>
      analyze o.aborting text =
        match firstUnresolved? a.diagnostics with
        | none => .ok a
        | some d => .error d
    | .error d =>
      (∃ last, d.issue = .identifierOverflow last) ∧
      (analyze o.aborting text = .error d ∨
        ∃ number name, number < d.line ∧ analyze o.aborting text =
          .error { line := number, issue := .unresolvedReference name }) := by
  have clean : firstUnresolved? (Reading.start o.startingId.toNat).diagnostics = none := rfl
  cases read : analyze o.skipping text with
  | ok a =>
    obtain ⟨r, ran, rfl⟩ := analyze_eq_ok_iff.mp read
    have cut := Reading.run_aborting clean ran
    dsimp only [Reading.toAnalysis]
    cases hit : firstUnresolved? r.diagnostics with
    | none =>
      rw [hit] at cut
      exact analyze_eq_ok_iff.mpr ⟨r, cut, rfl⟩
    | some d =>
      rw [hit] at cut
      exact analyze_eq_error_iff.mpr cut
  | error d =>
    have ran := analyze_eq_error_iff.mp read
    constructor
    · obtain ⟨_, _, _, _, _, -, -, failed⟩ := Reading.run_error ran
      rcases Reading.step_error failed with ⟨_, -, -, rfl⟩ | ⟨_, _, -, policy, -, -⟩
      · exact ⟨_, rfl⟩
      · cases policy
    · rcases Reading.run_aborting_of_error clean ran with same | ⟨number, name, before, cut⟩
      · exact .inl (analyze_eq_error_iff.mpr same)
      · exact .inr ⟨number, name, before, analyze_eq_error_iff.mpr cut⟩

end Statechart
