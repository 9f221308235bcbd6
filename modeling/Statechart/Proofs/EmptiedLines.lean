import Statechart.Proofs.Reports

/-! Lines that were reported and did nothing else might as well not be there. To empty a line is to
take away its characters but not its line feed, so the other lines stay where they are and keep their
numbers. A declaration whose nickname is in conflict and a text for an unknown state can be emptied,
all of them at once: what is left of a diagram and of its report is what the other lines make. A
composite state with such a nickname is opened all the same, and its report stays. -/
namespace Statechart

namespace Text

variable {dropped : Nat → Bool} {line : List Char}

/-- The text with certain lines emptied, the first of which has the given number. -/
def emptied (dropped : Nat → Bool) : Nat → List Char → List Char
  | _, [] => []
  | number, c :: rest =>
    if c = '\n' then c :: emptied dropped (number + 1) rest
    else if dropped number then emptied dropped number rest
    else c :: emptied dropped number rest

/-- Up to the line feed, a line is there as a whole or not at all. -/
theorem emptied_append (free : '\n' ∉ line) (number : Nat) (rest : List Char) :
    emptied dropped number (line ++ rest) =
      (if dropped number then [] else line) ++ emptied dropped number rest := by
  induction line with
  | nil => simp
  | cons c line ih =>
    obtain ⟨other, tailFree⟩ : c ≠ '\n' ∧ '\n' ∉ line := by simpa [eq_comm] using free
    rw [List.cons_append, emptied, if_neg other, ih tailFree]
    split <;> rfl

/-- The lines of the text are emptied one by one. Only if the last one is, and no line feed ends it,
there is nothing left of it. -/
theorem lines_emptied (dropped : Nat → Bool) (number : Nat) (text : List Char) :
    ∃ rest, (rest = [] ∨ rest = [[]]) ∧
      (lines (emptied dropped number text)).map trim ++ rest =
        ((lines text).zipIdx number).map fun entry => if dropped entry.2 then [] else trim entry.1 := by
  induction text using feed_induction generalizing number with
  | last line free =>
    have whole : emptied dropped number line = if dropped number then [] else line := by
      simpa [emptied] using emptied_append free number []
    rw [whole]
    by_cases written : line = []
    · subst written
      exact ⟨[], .inl rfl, by simp [lines]⟩
    · rw [lines_of_not_mem free written]
      by_cases drop : dropped number
      · exact ⟨[[]], .inr rfl, by simp [drop, lines]⟩
      · exact ⟨[], .inl rfl, by simp [drop, lines_of_not_mem free written]⟩
  | feed line later free ih =>
    obtain ⟨rest, nothing, same⟩ := ih (number + 1)
    have kept : '\n' ∉ (if dropped number then [] else line) := by
      split
      · exact List.not_mem_nil
      · exact free
    refine ⟨rest, nothing, ?_⟩
    rw [emptied_append free, emptied, if_pos rfl, lines_feed _ kept, lines_feed _ free,
      List.map_cons, List.cons_append, same, trim_stripReturn, List.zipIdx_cons, List.map_cons,
      trim_stripReturn]
    congr 1
    split <;> rfl

end Text

/-- The text with the lines of certain numbers emptied. -/
def withoutLines (dropped : Nat → Bool) (text : String) : String :=
  String.ofList (Text.emptied dropped 1 text.toList)

/-- A line does nothing if its number is one of those. -/
def cleared (dropped : Nat → Bool) (entry : Line × Nat) : Line × Nat :=
  if dropped entry.2 then (.ignored, entry.2) else entry

/-- Numbered again from the same number, the entries get the numbers that they had. -/
private theorem zipIdx_map_zipIdx (f : α × Nat → β) (number : Nat) (lines : List α) :
    ((lines.zipIdx number).map f).zipIdx number =
      (lines.zipIdx number).map fun entry => (f entry, entry.2) := by
  induction lines generalizing number with
  | nil => rfl
  | cons line lines ih => simp [List.zipIdx_cons, ih]

/-- An emptied line does nothing, and the other lines do what they did. A last line that is emptied and
that no line feed ends is no line any more. -/
theorem numberedLines_withoutLines (dropped : Nat → Bool) (text : String) :
    ∃ idle, (idle = [] ∨ ∃ number, idle = [(Line.ignored, number)]) ∧
      numberedLines (withoutLines dropped text) ++ idle =
        (numberedLines text).map (cleared dropped) := by
  obtain ⟨rest, nothing, same⟩ := Text.lines_emptied dropped 1 text.toList
  refine ⟨(rest.map Line.ofTrimmed).zipIdx (lineCount (withoutLines dropped text) + 1), ?_, ?_⟩
  · rcases nothing with rfl | rfl
    · exact .inl rfl
    · exact .inr ⟨_, rfl⟩
  · have emptied : (withoutLines dropped text).toList = Text.emptied dropped 1 text.toList :=
      String.toList_ofList
    calc numberedLines (withoutLines dropped text) ++ _
        = (classifiedLines (Text.lines (withoutLines dropped text).toList) ++
            rest.map Line.ofTrimmed).zipIdx 1 := by
          rw [List.zipIdx_append, classifiedLines, List.length_map, Nat.add_comm]
          rfl
      _ = ((((Text.lines text.toList).zipIdx 1).map fun entry =>
            if dropped entry.2 then [] else Text.trim entry.1).map Line.ofTrimmed).zipIdx 1 := by
          rw [classifiedLines_eq, emptied, ← List.map_append, same]
      _ = (numberedLines text).map (cleared dropped) := by
          rw [List.map_map, zipIdx_map_zipIdx, numberedLines, List.zipIdx_map, List.map_map]
          apply List.map_congr_left
          rintro ⟨line, number⟩ -
          by_cases drop : dropped number
          · simp only [Function.comp, Prod.map, id, cleared, drop, if_true]
            rfl
          · simp [cleared, drop, Line.classify]

/-- The line with this number is of a certain kind. -/
def lineIs (text : String) (kind : Line → Bool) (number : Nat) : Bool :=
  (numberedLines text).any fun entry => entry.2 == number && kind entry.1

theorem lineIs_of_mem {text : String} {line : Line} {number : Nat}
    (member : (line, number) ∈ numberedLines text) (kind : Line → Bool) :
    lineIs text kind number = kind line := by
  obtain ⟨earlier, later, split⟩ := List.append_of_mem member
  rw [lineIs, Bool.eq_iff_iff, List.any_eq_true]
  constructor
  · rintro ⟨⟨other, place⟩, there, both⟩
    obtain ⟨rfl, fits⟩ : place = number ∧ kind other = true := by simpa using both
    obtain ⟨before, behind, splitThere⟩ := List.append_of_mem there
    rw [(split_unique split splitThere).2]
    exact fits
  · intro fits
    exact ⟨(line, number), member, by simp [fits]⟩

namespace Reading

variable {o : Options} {r origin next : Reading} {lines : List (Line × Nat)} {dropped : Nat → Bool}
  {line : Line} {number : Nat}

/-- Emptying lines of a text makes them do nothing. -/
theorem run_withoutLines (o : Options) (r : Reading) (dropped : Nat → Bool) (text : String) :
    run o r (numberedLines (withoutLines dropped text)) =
      run o r ((numberedLines text).map (cleared dropped)) := by
  obtain ⟨idle, nothing, same⟩ := numberedLines_withoutLines dropped text
  rw [← same, run_append]
  rcases nothing with rfl | ⟨number, rfl⟩
  · exact (bind_pure _).symm
  · exact (bind_pure _).symm

/-- A line has a problem and does nothing but report it. -/
def PassesOver (o : Options) (r : Reading) (line : Line) : Prop :=
  (∃ issue, r.draft.issue? o.identity line = some issue) ∧ line.isComposite = false

/-- Lines that are passed over can be left out. What is lost are their reports. -/
theorem run_cleared (clean : origin.diagnostics = []) (ran : run o origin lines = .ok next)
    (idle : ∀ entry before, ReachedAt o origin lines entry before → dropped entry.2 →
      before.PassesOver o entry.1) :
    run o origin (lines.map (cleared dropped)) =
      .ok { next with diagnostics := next.diagnostics.filter fun d => !dropped d.line } := by
  induction lines using List.reverseRecOn generalizing next with
  | nil =>
    cases ran
    rw [clean, List.filter_nil, ← clean]
    rfl
  | append_singleton front last ih =>
    obtain ⟨line, number⟩ := last
    rw [run_concat] at ran
    obtain ⟨before, ranFront, stepped⟩ := bind_eq_ok_iff.mp ran
    have idleFront := fun entry r reached => idle entry r (reachedAt_concat_iff.mpr (.inl reached))
    have idleHere := idle (line, number) before (reachedAt_concat_iff.mpr (.inr ⟨rfl, ranFront⟩))
    have reported := step_diagnostics stepped
    rw [List.map_append, List.map_singleton]
    by_cases drop : dropped number
    · obtain ⟨⟨issue, wrong⟩, simple⟩ := idleHere drop
      have passed := step_of_issue wrong stepped simple
      rw [cleared, if_pos drop, run_concat, ih ranFront idleFront, passed]
      show Except.ok _ = Except.ok _
      simp [report, drop]
    · have kept : ∀ d ∈ before.reports o number line, !dropped d.line := by
        intro d member
        simpa [(mem_reports_iff.mp member).1] using drop
      rw [cleared, if_neg drop, run_concat, ih ranFront idleFront, reported, List.filter_append,
        List.filter_eq_self.mpr kept]
      exact step_reported stepped _

/-- What is reported about a line is its problem at the point where it is read. -/
theorem ReachedAt.mem_diagnostics_iff {text : String} {before : Reading} {d : Diagnostic}
    (reached : ReachedAt o origin (numberedLines text) (line, number) before)
    (clean : origin.diagnostics = []) (ran : run o origin (numberedLines text) = .ok next) :
    d ∈ next.diagnostics ∧ d.line = number ↔ d ∈ before.reports o number line := by
  rw [run_diagnostics_iff ran, clean]
  constructor
  · rintro ⟨nowhere | ⟨⟨other, place⟩, r, reachedThere, reported⟩, same⟩
    · cases nowhere
    · obtain rfl := (mem_reports_iff.mp reported).1.symm.trans same
      obtain ⟨rfl, rfl⟩ := reached.unique reachedThere
      exact reported
  · intro reported
    exact ⟨.inr ⟨_, before, reached, reported⟩, (mem_reports_iff.mp reported).1⟩

end Reading

/-- A line was reported and did nothing: it is a text for an unknown state, or a declaration whose
nickname is in conflict. -/
def Analysis.rejects (a : Analysis) (text : String) (number : Nat) : Bool :=
  a.diagnostics.any fun d => d.line == number &&
    (d.issue.isUnresolved || d.issue.isConflict && lineIs text Line.isAliased number)

namespace Reading

variable {o : Options} {origin before r : Reading} {line : Line} {number : Nat} {text : String}

/-- The lines that were reported and did nothing are the ones that were passed over. -/
theorem ReachedAt.rejects_iff
    (reached : ReachedAt o origin (numberedLines text) (line, number) before)
    (clean : origin.diagnostics = []) (ran : run o origin (numberedLines text) = .ok r) :
    r.toAnalysis.rejects text number ↔ before.PassesOver o line := by
  have place : lineIs text Line.isAliased number = line.isAliased := lineIs_of_mem reached.mem _
  rw [Analysis.rejects, List.any_eq_true, place]
  constructor
  · rintro ⟨d, member, which⟩
    obtain ⟨here, which⟩ : d.line = number ∧
        (d.issue.isUnresolved ∨ d.issue.isConflict ∧ line.isAliased) := by simpa using which
    have wrong := (mem_reports_iff.mp ((reached.mem_diagnostics_iff clean ran).mp ⟨member, here⟩)).2
    refine ⟨⟨d.issue, wrong⟩, Line.isComposite_eq_false ?_⟩
    rcases which with unresolved | ⟨-, aliased⟩
    · exact .inr ((Draft.kind_of_issue? wrong).2.1 ▸ unresolved)
    · exact .inl aliased
  · rintro ⟨⟨issue, wrong⟩, simple⟩
    have reported : ⟨number, issue⟩ ∈ before.reports o number line := mem_reports_iff.mpr ⟨rfl, wrong⟩
    refine ⟨_, ((reached.mem_diagnostics_iff clean ran).mpr reported).1, ?_⟩
    obtain ⟨conflict, -, either⟩ := Draft.kind_of_issue? wrong
    have aliased : issue.isConflict = line.isAliased := by simpa [simple] using conflict
    simpa [← aliased, or_comm] using either

end Reading

/-- The lines that were reported and did nothing can be emptied. The diagram is the same without
them, and what is still reported are the nicknames of composite states that are in conflict. -/
theorem rejected_lines_inert {o : Options} {text : String} {a : Analysis}
    (read : analyze o text = .ok a) :
    analyze o (withoutLines (a.rejects text) text) =
      .ok { a with diagnostics := a.diagnostics.filter fun d =>
              d.issue.isConflict && lineIs text Line.isComposite d.line } := by
  obtain ⟨r, ran, rfl⟩ := analyze_eq_ok_iff.mp read
  have clean : (Reading.start o.startingId.toNat).diagnostics = [] := rfl
  have kept : ∀ d ∈ r.diagnostics, (!r.toAnalysis.rejects text d.line) =
      (d.issue.isConflict && lineIs text Line.isComposite d.line) := by
    intro d member
    obtain ⟨⟨line, number⟩, before, reached, reported⟩ :=
      ((Reading.run_diagnostics_iff ran).mp member).resolve_left List.not_mem_nil
    obtain ⟨rfl, wrong⟩ := Reading.mem_reports_iff.mp reported
    have passed : r.toAnalysis.rejects text d.line = !line.isComposite := by
      rw [Bool.eq_iff_iff, reached.rejects_iff clean ran, Bool.not_eq_true']
      exact and_iff_right ⟨_, wrong⟩
    rw [passed, lineIs_of_mem reached.mem, (Draft.kind_of_issue? wrong).1]
    cases line.isComposite <;> simp
  have emptied := Reading.run_cleared clean ran fun entry before reached rejected =>
    (reached.rejects_iff clean ran).mp rejected
  rw [← Reading.run_withoutLines, List.filter_congr kept] at emptied
  exact analyze_eq_ok_iff.mpr ⟨_, emptied, rfl⟩

/-- A nickname is introduced for a second state, which is composite the second time, and a text is
for a state that does not exist. -/
def misdeclared : String :=
  "state \"One\" as N\nGhost : lost\nstate \"Two\" as N\nstate \"Two\" as N \x7b\nOne : in\n\x7d\nN --> Two"

theorem rejected_lines_inert_misdeclared :
    ∃ a, analyze { onUnresolved := .skip } misdeclared = .ok a ∧
      a.diagnostics.map (·.line) = [2, 3, 4] ∧ a.states.map (·.name) = ["One", "Two"] ∧
      analyze { onUnresolved := .skip }
          "state \"One\" as N\n\n\nstate \"Two\" as N \x7b\nOne : in\n\x7d\nN --> Two" =
        .ok { a with diagnostics := [{ line := 4, issue := .aliasConflict "N" "One" "Two" }] } := by
  obtain ⟨a, read, lines, names, emptied, kept⟩ : ∃ a,
      analyze { onUnresolved := .skip } misdeclared = .ok a ∧
        a.diagnostics.map (·.line) = [2, 3, 4] ∧ a.states.map (·.name) = ["One", "Two"] ∧
        withoutLines (a.rejects misdeclared) misdeclared =
          "state \"One\" as N\n\n\nstate \"Two\" as N \x7b\nOne : in\n\x7d\nN --> Two" ∧
        (a.diagnostics.filter fun d => d.issue.isConflict && lineIs misdeclared Line.isComposite d.line) =
          [{ line := 4, issue := .aliasConflict "N" "One" "Two" }] :=
    ⟨_, by cbv, by cbv, by cbv, by decide +kernel, by cbv⟩
  refine ⟨a, read, lines, names, ?_⟩
  rw [← emptied, ← kept]
  exact rejected_lines_inert read

end Statechart
