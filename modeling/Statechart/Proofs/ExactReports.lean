import Statechart.Proofs.Nicknames
import Statechart.Proofs.Reports

/-! Which lines are reported, and which line is to blame. A nickname stands for the name that it was
first introduced for, so whether a line is in conflict with it can be told from the lines above. A text
is for a name that refers to nothing at the point where it is read. These are all the problems that
there are: each such line is reported once, in the order of the lines, and reading a text ends early
only at the first text for an unknown name or where the numbers are used up. -/
namespace Statechart

/-- The full name that a line introduces a nickname for. -/
def Line.fullNameOf? (line : Line) (nickname : String) : Option String :=
  line.introduction?.bind fun (full, short) => if short = nickname then some full else none

/-- The full name that the first of some lines that introduces a nickname introduces it for. -/
def firstFullName? (lines : List (Line × Nat)) (nickname : String) : Option String :=
  lines.findSome? fun entry => entry.1.fullNameOf? nickname

/-- The line with this number introduces a nickname for a name other than the one that a line above
it introduced the nickname for first. -/
def ConflictsOn (text : String) (number : Nat) (nickname existing requested : String) : Prop :=
  ∃ earlier line later, numberedLines text = earlier ++ (line, number) :: later ∧
    line.introduction? = some (requested, nickname) ∧
    firstFullName? earlier nickname = some existing ∧ existing ≠ requested

/-- The line with this number is a text for a name that refers to nothing when the line is reached. -/
def UnresolvedOn (o : Options) (text : String) (number : Nat) (name : String) : Prop :=
  ∃ remark before, Reading.ReachedAt o (.start o.startingId.toNat) (numberedLines text)
      (.content name remark, number) before ∧
    (before.draft.resolve o.identity name .declaration).id? = none

theorem Nicknames.conflict?_eq_some_iff {table : Nicknames} {full nickname : String} {issue : Issue} :
    table.conflict? full nickname = some issue ↔
      ∃ existing, table.get? nickname = some existing ∧ existing ≠ full ∧
        issue = .aliasConflict nickname existing full := by
  unfold conflict? introduce
  cases table.get? nickname with
  | none => simp
  | some existing =>
    by_cases same : existing = full
    · simp [same]
    · simp [same, eq_comm (a := issue)]

/-- A line is wrong in one of two ways: its nickname stands for another name, or it is a text for a
name that refers to nothing. -/
theorem Draft.issue?_eq_some_iff {d : Draft} {identity : Identity} {line : Line} {issue : Issue} :
    d.issue? identity line = some issue ↔
      (∃ nickname existing requested, line.introduction? = some (requested, nickname) ∧
        d.nicknames.get? nickname = some existing ∧ existing ≠ requested ∧
        issue = .aliasConflict nickname existing requested) ∨
      ∃ name text, line = .content name text ∧ (d.resolve identity name .declaration).id? = none ∧
        issue = .unresolvedReference name := by
  cases line with
  | composite name nickname =>
    cases nickname with
    | none => simp [issue?, Line.introduction?]
    | some nickname => simp [issue?, Line.introduction?, Nicknames.conflict?_eq_some_iff]
  | aliased name nickname stereotype =>
    simp [issue?, Line.introduction?, Nicknames.conflict?_eq_some_iff]
  | content name text =>
    cases known : (d.resolve identity name .declaration).id? with
    | none => simp [issue?, Line.introduction?, known, eq_comm]
    | some id => simp [issue?, Line.introduction?, known]
  | close | stereotyped | simple | transition | ignored => simp [issue?, Line.introduction?]

namespace Reading

variable {o : Options} {r next origin before : Reading} {number : Nat} {line : Line}
  {lines earlier later : List (Line × Nat)} {entry : Line × Nat} {d : Diagnostic}

theorem step_get? (ran : r.step o number line = .ok next) (nickname : String) :
    next.draft.nicknames.get? nickname =
      (r.draft.nicknames.get? nickname).or (line.fullNameOf? nickname) := by
  rw [step_nicknames ran, Line.fullNameOf?]
  cases line.introduction? with
  | none => simp
  | some names =>
    obtain ⟨full, short⟩ := names
    dsimp only [Option.bind_some]
    rw [Nicknames.get?_bind]
    by_cases same : nickname = short
    · subst same
      cases r.draft.nicknames.get? nickname <;> simp
    · simp [same, Ne.symm same]

/-- A nickname stands for the name that it was first introduced for. -/
theorem run_get? (ran : run o r lines = .ok next) (nickname : String) :
    next.draft.nicknames.get? nickname =
      (r.draft.nicknames.get? nickname).or (firstFullName? lines nickname) := by
  unfold firstFullName?
  induction lines generalizing r with
  | nil =>
    cases ran
    simp
  | cons entry later ih =>
    obtain ⟨line, number⟩ := entry
    rw [run_cons] at ran
    obtain ⟨between, stepped, ranLater⟩ := bind_eq_ok_iff.mp ran
    rw [ih ranLater, step_get? stepped, Option.or_assoc, List.findSome?_cons]
    cases line.fullNameOf? nickname <;> rfl

/-- A text for a name that refers to nothing cannot be got past if it is to end the reading. -/
theorem step_unresolved {name text : String}
    (unknown : (r.draft.resolve o.identity name .declaration).id? = none)
    (policy : o.onUnresolved = .abort) (number : Nat) :
    r.step o number (.content name text) =
      .error { line := number, issue := .unresolvedReference name } := by
  simp only [step, unknown, policy]
  rfl

/-- Numbers are handed out up to the largest one. -/
theorem Move.lastId_le_max {listed : Option Transition} (move : Move o listed r next)
    (bounded : r.draft.registry.lastId ≤ StateId.max) :
    next.draft.registry.lastId ≤ StateId.max := by
  cases move with
  | bind | report | enter | leave => exact bounded
  | create _ _ left =>
    simp only [push, Draft.push, Registry.push_lastId]
    exact left
  | annotate => exact (Registry.modify_lastId _ _ _).trans_le bounded
  | connect =>
    rw [addTransition_eq]
    exact (Registry.modify_lastId _ _ _).trans_le bounded

theorem Moves.lastId_le_max (moves : Moves o r next)
    (bounded : r.draft.registry.lastId ≤ StateId.max) :
    next.draft.registry.lastId ≤ StateId.max :=
  moves.preserves Move.lastId_le_max bounded

/-- If numbers run out, the largest one was handed out. -/
theorem RunsOut.issue_eq (out : RunsOut o r number d)
    (bounded : r.draft.registry.lastId ≤ StateId.max) :
    d.issue = .identifierOverflow StateId.max := by
  obtain ⟨between, silent, full, rfl⟩ := out
  rw [Nat.le_antisymm (silent.moves.lastId_le_max bounded) full]

theorem start_lastId_le_max (s : UInt64) : (start s.toNat).draft.registry.lastId ≤ StateId.max :=
  Nat.le_pred_of_lt s.toNat_lt

/-- What is reported comes in the order of the lines, and no line is reported twice. -/
theorem run_diagnostics_ordered (clean : origin.diagnostics = [])
    (ordered : lines.Pairwise fun first second => first.2 < second.2)
    (ran : run o origin lines = .ok next) :
    next.diagnostics.Pairwise fun first second => first.line < second.line := by
  induction lines using List.reverseRecOn generalizing next with
  | nil =>
    cases ran
    rw [clean]
    exact .nil
  | append_singleton front last ih =>
    obtain ⟨line, number⟩ := last
    obtain ⟨orderedFront, -, below⟩ := List.pairwise_append.mp ordered
    rw [run_concat] at ran
    obtain ⟨before, ranFront, stepped⟩ := bind_eq_ok_iff.mp ran
    have single : (before.reports o number line).Pairwise fun first second =>
        first.line < second.line := by
      unfold reports
      cases before.draft.issue? o.identity line <;> simp
    rw [step_diagnostics stepped, List.pairwise_append]
    refine ⟨ih orderedFront ranFront, single, ?_⟩
    intro d old e fresh
    rw [run_diagnostics_iff ranFront, clean] at old
    obtain ⟨entry, _, ⟨_, _, rfl, -⟩, reported⟩ := old.resolve_left List.not_mem_nil
    rw [(mem_reports_iff.mp reported).1, (mem_reports_iff.mp fresh).1]
    exact below entry (by simp) (line, number) (by simp)

end Reading

section Reports

variable {o : Options} {text : String} {r : Reading} {d : Diagnostic}

/-- Where a text for an unknown name ends the reading, there is none among the lines that were read. -/
theorem length_lt_of_unresolvedOn {lines later : List (Line × Nat)} {number : Nat} {name : String}
    (policy : o.onUnresolved = .abort) (split : numberedLines text = lines ++ later)
    (ran : Reading.run o (.start o.startingId.toNat) lines = .ok r)
    (unresolved : UnresolvedOn o text number name) : lines.length < number := by
  obtain ⟨remark, before, ⟨earlier, rest, here, ranEarlier⟩, unknown⟩ := unresolved
  have place := number_of_split here
  by_contra below
  -- The line is one of those that were read.
  have upToHere : earlier ++ [(Line.content name remark, number)] <+: numberedLines text :=
    ⟨rest, by simp [here]⟩
  have upToThere : lines <+: numberedLines text := ⟨later, split.symm⟩
  obtain ⟨between, rfl⟩ := List.prefix_of_prefix_length_le upToHere upToThere (by
    simp only [List.length_append, List.length_singleton]
    omega)
  rw [List.append_assoc, List.singleton_append] at ran
  obtain ⟨before', after, ranAgain, -, stepped⟩ := Reading.reachedAt_of_split rfl ran
  cases ranEarlier.symm.trans ranAgain
  rw [Reading.step_unresolved unknown policy] at stepped
  cases stepped

theorem not_unresolvedOn_of_read {number : Nat} {name : String} (policy : o.onUnresolved = .abort)
    (ran : Reading.run o (.start o.startingId.toNat) (numberedLines text) = .ok r) :
    ¬ UnresolvedOn o text number name := by
  intro unresolved
  have below := length_lt_of_unresolvedOn policy (List.append_nil _).symm ran unresolved
  obtain ⟨remark, before, reached, -⟩ := unresolved
  have within := (number_bounds reached.mem).2
  rw [numberedLines_length] at below
  omega

/-- What is reported in the end are the nicknames in conflict and, if they are passed over, the texts
for unknown names. -/
theorem mem_diagnostics_iff
    (ran : Reading.run o (.start o.startingId.toNat) (numberedLines text) = .ok r) :
    d ∈ r.diagnostics ↔
      (∃ nickname existing requested, ConflictsOn text d.line nickname existing requested ∧
        d.issue = .aliasConflict nickname existing requested) ∨
      o.onUnresolved = .skip ∧
        ∃ name, UnresolvedOn o text d.line name ∧ d.issue = .unresolvedReference name := by
  have nicknames {earlier : List (Line × Nat)} {before : Reading}
      (ranEarlier : Reading.run o (.start o.startingId.toNat) earlier = .ok before)
      (nickname : String) :
      before.draft.nicknames.get? nickname = firstFullName? earlier nickname := by
    rw [Reading.run_get? ranEarlier]
    rfl
  rw [Reading.run_diagnostics_iff ran]
  constructor
  · rintro (nowhere | ⟨⟨line, number⟩, before, reached, reported⟩)
    · cases nowhere
    obtain ⟨rfl, wrong⟩ := Reading.mem_reports_iff.mp reported
    rcases Draft.issue?_eq_some_iff.mp wrong with
      ⟨nickname, existing, requested, introduces, bound, other, issue⟩ |
      ⟨name, remark, rfl, unknown, issue⟩
    · obtain ⟨earlier, later, split, ranEarlier⟩ := reached
      rw [nicknames ranEarlier] at bound
      exact .inl ⟨nickname, existing, requested, ⟨earlier, line, later, split, introduces, bound, other⟩,
        issue⟩
    · have unresolved : UnresolvedOn o text d.line name := ⟨remark, before, reached, unknown⟩
      refine .inr ⟨?_, name, unresolved, issue⟩
      cases policy : o.onUnresolved with
      | skip => rfl
      | abort => exact absurd unresolved (not_unresolvedOn_of_read policy ran)
  · rintro (⟨nickname, existing, requested, ⟨earlier, line, later, split, introduces, first, other⟩,
      issue⟩ | ⟨-, name, ⟨remark, before, reached, unknown⟩, issue⟩)
    · obtain ⟨before, after, ranEarlier, reached, -⟩ := Reading.reachedAt_of_split split ran
      rw [← nicknames ranEarlier] at first
      exact .inr ⟨(line, d.line), before, reached, Reading.mem_reports_iff.mpr ⟨rfl,
        Draft.issue?_eq_some_iff.mpr (.inl ⟨nickname, existing, requested, introduces, first, other,
          issue⟩)⟩⟩
    · exact .inr ⟨(.content name remark, d.line), before, reached, Reading.mem_reports_iff.mpr ⟨rfl,
        Draft.issue?_eq_some_iff.mpr (.inr ⟨name, remark, rfl, unknown, issue⟩)⟩⟩

/-- A line that ends the reading is a text for an unknown name, the first one that there is, or it asks
for a state after the largest number was handed out. -/
theorem cause_of_error
    (ran : Reading.run o (.start o.startingId.toNat) (numberedLines text) = .error d) :
    (∃ name, d.issue = .unresolvedReference name ∧ o.onUnresolved = .abort ∧
      UnresolvedOn o text d.line name ∧
      ∀ number other, UnresolvedOn o text number other → d.line ≤ number) ∨
    d.issue = .identifierOverflow StateId.max := by
  obtain ⟨earlier, line, number, later, before, split, ranEarlier, failed⟩ := Reading.run_error ran
  rcases Reading.step_error failed with out | ⟨name, remark, rfl, policy, unknown, rfl⟩
  · right
    exact out.issue_eq ((Reading.run_moves ranEarlier).lastId_le_max (Reading.start_lastId_le_max _))
  · left
    refine ⟨name, rfl, policy, ⟨remark, before, ⟨earlier, later, split, ranEarlier⟩, unknown⟩, ?_⟩
    intro place other unresolved
    have beyond := length_lt_of_unresolvedOn policy split ranEarlier unresolved
    rw [number_of_split split]
    exact beyond

end Reports

/-- The report on a text is exact. What is reported is one problem for each line that has one, in the
order of the lines: a nickname that was first introduced for another name, or a text for a name that
refers to nothing, if such texts are passed over. If they are not, a text that is read has none, and
the first one is what the reading of any other text ends with, unless the numbers are used up. -/
theorem reports_exact (o : Options) (text : String) :
    match analyze o text with
    | .ok a =>
      (a.diagnostics.Pairwise fun first second => first.line < second.line) ∧
      (∀ d, d ∈ a.diagnostics ↔
        (∃ nickname existing requested, ConflictsOn text d.line nickname existing requested ∧
          d.issue = .aliasConflict nickname existing requested) ∨
        o.onUnresolved = .skip ∧
          ∃ name, UnresolvedOn o text d.line name ∧ d.issue = .unresolvedReference name) ∧
      (o.onUnresolved = .abort → ∀ number name, ¬ UnresolvedOn o text number name)
    | .error d =>
      1 ≤ d.line ∧ d.line ≤ lineCount text ∧
      ((∃ name, d.issue = .unresolvedReference name ∧ o.onUnresolved = .abort ∧
          UnresolvedOn o text d.line name ∧
          ∀ number other, UnresolvedOn o text number other → d.line ≤ number) ∨
        d.issue = .identifierOverflow StateId.max) := by
  cases read : analyze o text with
  | ok a =>
    obtain ⟨r, ran, rfl⟩ := analyze_eq_ok_iff.mp read
    exact ⟨Reading.run_diagnostics_ordered rfl (numberedLines_ordered text) ran,
      fun d => mem_diagnostics_iff ran,
      fun policy _ _ unresolved => not_unresolvedOn_of_read policy ran unresolved⟩
  | error d =>
    have ran := analyze_eq_error_iff.mp read
    obtain ⟨entry, member, blamed⟩ := Reading.run_error_line ran
    obtain ⟨above, within⟩ := number_bounds member
    rw [← blamed] at above within
    exact ⟨above, within, cause_of_error ran⟩

end Statechart
