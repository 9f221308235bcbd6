import Mathlib
import Statechart.Proofs.Lines
import Statechart.Proofs.Moves
import Statechart.Proofs.Names

/-! How a diagram is laid out does not matter. Lines that say nothing can be put in anywhere, blanks can be
added at the ends of a line, and a line may end with or without a carriage return. Reading the lines of the
new text is reading those of the old one under other numbers: lines that say nothing are passed over, and
the number of a line is used in reports only. -/
namespace Statechart

/-- These lines make up a text. Each of them ends with a line feed, with or without a carriage return before
it; the last one may do without. -/
inductive Composed : String → List String → Prop where
  | nothing : Composed "" []
  | unended {line : String} (free : '\n' ∉ line.toList) : Composed line [line]
  | feed {line text : String} {lines : List String} (free : '\n' ∉ line.toList)
      (later : Composed text lines) : Composed (line ++ "\n" ++ text) (line :: lines)
  | returnFeed {line text : String} {lines : List String} (free : '\n' ∉ line.toList)
      (later : Composed text lines) : Composed (line ++ "\r\n" ++ text) (line :: lines)

/-- Blanks that stay on a line. -/
structure Margin where
  /-- The blanks. -/
  blanks : String
  blank : ∀ c ∈ blanks.toList, Text.isBlank c = true ∧ c ≠ '\n'

/-- No blanks. -/
def Margin.none : Margin := ⟨"", by simp⟩

/-- A line of a text that is laid out anew. -/
inductive Slot where
  /-- A line of the old text, with blanks added at its ends. -/
  | moved (line : String) (before after : Margin)
  /-- A line that is put in and says nothing. -/
  | added (line : String) (idle : Line.classify line = .ignored)

namespace Slot

/-- The line of the old text. -/
def old? : Slot → Option String
  | moved line _ _ => some line
  | added _ _ => none

/-- The line of the new text. -/
def new : Slot → String
  | moved line before after => before.blanks ++ line ++ after.blanks
  | added line _ => line

/-- The numbers that the lines of the old text have in the new one, if the new one counts from a number on. -/
def places (first : Nat) (slots : List Slot) : List Nat :=
  (slots.zipIdx first).filterMap fun entry => entry.1.old?.map fun _ => entry.2

@[simp] theorem places_moved (first : Nat) (line : String) (before after : Margin) (later : List Slot) :
    places first (moved line before after :: later) = first :: places (first + 1) later := rfl

@[simp] theorem places_added (first : Nat) (line : String) (idle : Line.classify line = .ignored)
    (later : List Slot) : places first (added line idle :: later) = places (first + 1) later := rfl

/-- Each line of the old text has a place in the new one. -/
theorem places_length (first : Nat) (slots : List Slot) :
    (places first slots).length = (slots.filterMap old?).length := by
  induction slots generalizing first with
  | nil => rfl
  | cons slot later ih => cases slot <;> simp [old?, List.filterMap_cons, ih]

/-- The number in the new text of the line that has a number in the old one. -/
def place (slots : List Slot) (number : Nat) : Nat :=
  (places 1 slots).getD (number - 1) 0

end Slot

/-- A problem on a line that has another number now. -/
def Diagnostic.renumber (place : Nat → Nat) (d : Diagnostic) : Diagnostic :=
  { d with line := place d.line }

/-- What a diagram says, with other numbers for the lines of its problems. -/
def Analysis.renumber (place : Nat → Nat) (a : Analysis) : Analysis :=
  { a with diagnostics := a.diagnostics.map (·.renumber place) }

namespace Line

/-- A line may begin and end with blanks. -/
theorem classify_margins (before after : Margin) (line : String) :
    classify (before.blanks ++ line ++ after.blanks) = classify line := by
  unfold classify
  rw [String.toList_append, String.toList_append,
    Text.trim_append_blanks (fun c member => (after.blank c member).1),
    Text.trim_blanks_append (fun c member => (before.blank c member).1)]

/-- Whether a line says anything. -/
def isActive (line : Line) : Bool :=
  line != .ignored

end Line

/-- The lines that say something. -/
def active (lines : List (Line × Nat)) : List (Line × Nat) :=
  lines.filter fun entry => entry.1.isActive

/-- A text does what the lines do that make it up. An empty line without an ending is not counted, but it
says nothing either. -/
theorem Composed.classifiedLines_append {text : String} {lines : List String} (composed : Composed text lines) :
    ∃ idle, (idle = [] ∨ idle = [Line.ignored]) ∧
      classifiedLines (Text.lines text.toList) ++ idle = lines.map Line.classify := by
  induction composed with
  | nothing => exact ⟨[], .inl rfl, rfl⟩
  | @unended line free =>
    by_cases empty : line = ""
    · subst empty
      exact ⟨[.ignored], .inr rfl, by decide⟩
    · refine ⟨[], .inl rfl, ?_⟩
      rw [Text.lines_of_not_mem free (by simpa using empty)]
      simp [classifiedLines]
  | @feed line text lines free later ih =>
    obtain ⟨idle, nothing, same⟩ := ih
    have shape : (line ++ "\n" ++ text).toList = line.toList ++ '\n' :: text.toList := by simp
    refine ⟨idle, nothing, ?_⟩
    rw [shape, Text.lines_feed _ free, classifiedLines_eq, List.map_cons, Text.trim_stripReturn,
      List.map_cons, List.cons_append, ← classifiedLines_eq, same]
    rfl
  | @returnFeed line text lines free later ih =>
    obtain ⟨idle, nothing, same⟩ := ih
    have shape : (line ++ "\r\n" ++ text).toList =
        (line.toList ++ ['\r']) ++ '\n' :: text.toList := by simp
    have freeHere : '\n' ∉ line.toList ++ ['\r'] := by simp [free]
    refine ⟨idle, nothing, ?_⟩
    rw [shape, Text.lines_feed _ freeHere, classifiedLines_eq, List.map_cons, Text.trim_stripReturn,
      Text.trim_concat_blank _ (by decide), List.map_cons, List.cons_append, ← classifiedLines_eq, same]
    rfl

theorem Composed.active_numberedLines {text : String} {lines : List String}
    (composed : Composed text lines) :
    active (numberedLines text) = active ((lines.map Line.classify).zipIdx 1) := by
  obtain ⟨idle, nothing, same⟩ := composed.classifiedLines_append
  have numbered : numberedLines text = (classifiedLines (Text.lines text.toList)).zipIdx 1 := rfl
  rw [numbered, ← same, List.zipIdx_append]
  rcases nothing with rfl | rfl
  · simp
  · simp [active, Line.isActive]

/-- What says something in the new text are the lines of the old one, each at its place. -/
theorem active_zipIdx_new (slots : List Slot) (first : Nat) :
    active (((slots.map Slot.new).map Line.classify).zipIdx first) =
      active (((slots.filterMap Slot.old?).map Line.classify).zip (Slot.places first slots)) := by
  unfold active
  induction slots generalizing first with
  | nil => rfl
  | cons slot later ih =>
    cases slot with
    | moved line before after =>
      have same : Line.classify (Slot.moved line before after).new = Line.classify line :=
        Line.classify_margins before after line
      have old : (Slot.moved line before after).old? = some line := rfl
      rw [List.map_cons, List.map_cons, List.zipIdx_cons, List.filter_cons, same, ih,
        List.filterMap_cons_some old, Slot.places_moved, List.map_cons, List.zip_cons_cons,
        List.filter_cons]
    | added line idle =>
      have old : (Slot.added line idle).old? = none := rfl
      have quiet : (Line.classify (Slot.added line idle).new).isActive = false := by
        rw [Slot.new, idle]
        rfl
      rw [List.map_cons, List.map_cons, List.zipIdx_cons, List.filter_cons, quiet, if_neg (by decide),
        ih, List.filterMap_cons_none old, Slot.places_added]

/-- Numbering entries is the same as giving them numbers from a list. -/
theorem zip_eq_map_zipIdx {α : Type} (entries : List α) {numbers : List Nat}
    (counted : numbers.length = entries.length) :
    entries.zip numbers = (entries.zipIdx 1).map fun entry => (entry.1, numbers.getD (entry.2 - 1) 0) := by
  apply List.ext_getElem
  · simp [counted]
  · intro i here there
    have inside : i < numbers.length := by
      rw [List.length_zip] at here
      omega
    simp [inside]

theorem active_renumber {slots : List Slot} :
    active (((slots.map Slot.new).map Line.classify).zipIdx 1) =
      (active (((slots.filterMap Slot.old?).map Line.classify).zipIdx 1)).map fun entry =>
        (entry.1, Slot.place slots entry.2) := by
  have counted : (Slot.places 1 slots).length =
      ((slots.filterMap Slot.old?).map Line.classify).length := by
    rw [Slot.places_length, List.length_map]
  rw [active_zipIdx_new, zip_eq_map_zipIdx _ counted, active, List.filter_map]
  rfl

/-- An outcome, with other numbers for the lines of the problems. -/
def renumbered {α β : Type} (place : Nat → Nat) (f : α → β) (result : Except Diagnostic α) :
    Except Diagnostic β :=
  (result.map f).mapError (·.renumber place)

theorem renumbered_bind {α β α' β' : Type} {place : Nat → Nat} {f : α → α'} {g : β → β'}
    {result : Except Diagnostic α} {next : α → Except Diagnostic β} {next' : α' → Except Diagnostic β'}
    (goesOn : ∀ a, next' (f a) = renumbered place g (next a)) :
    renumbered place f result >>= next' = renumbered place g (result >>= next) := by
  cases result with
  | error d => rfl
  | ok a => exact goesOn a

namespace Reading

variable {o : Options} {r : Reading} {place : Nat → Nat} {number : Nat} {lines : List (Line × Nat)}

/-- What was read, with other numbers for the lines of the problems. -/
def renumber (place : Nat → Nat) (r : Reading) : Reading :=
  { r with diagnostics := r.diagnostics.map (·.renumber place) }

theorem obtain_renumber (place : Nat → Nat) (o : Options) (r : Reading) (number : Nat) (raw : String)
    (role : Role) (kind : Option Kind) :
    (r.renumber place).obtain o (place number) raw role kind =
      renumbered place (fun result => (result.1, result.2.renumber place))
        (r.obtain o number raw role kind) := by
  unfold obtain
  rw [show (r.renumber place).draft = r.draft from rfl]
  cases r.draft.obtain o.identity raw role kind <;> rfl

theorem report_renumber (place : Nat → Nat) (r : Reading) (number : Nat) (issue : Issue) :
    (r.renumber place).report (place number) issue = (r.report number issue).renumber place := by
  simp [report, renumber, Diagnostic.renumber]

theorem introduce_renumber (place : Nat → Nat) (r : Reading) (number : Nat) (full nickname : String) :
    (r.renumber place).introduce (place number) full nickname =
      ((r.introduce number full nickname).1, (r.introduce number full nickname).2.renumber place) := by
  unfold introduce
  rw [show (r.renumber place).draft = r.draft from rfl]
  cases r.draft.nicknames.introduce full nickname with
  | ok => rfl
  | error issue => exact congrArg (Prod.mk false) (report_renumber place r number issue)

/-- The number of a line does not matter to what the line does. -/
theorem step_renumber (place : Nat → Nat) (o : Options) (r : Reading) (number : Nat) (line : Line) :
    (r.renumber place).step o (place number) line =
      renumbered place (·.renumber place) (r.step o number line) := by
  cases line with
  | composite name nickname =>
    cases nickname with
    | none =>
      simp only [step, obtain_renumber]
      exact renumbered_bind fun _ => rfl
    | some nickname =>
      simp only [step, introduce_renumber, obtain_renumber]
      exact renumbered_bind fun _ => rfl
  | close => rfl
  | aliased name nickname stereotype =>
    simp only [step, introduce_renumber]
    generalize r.introduce number name nickname = result
    obtain ⟨accepted, between⟩ := result
    cases accepted with
    | true =>
      simp only [obtain_renumber]
      exact renumbered_bind fun _ => rfl
    | false => rfl
  | stereotyped name stereotype =>
    simp only [step, obtain_renumber]
    exact renumbered_bind fun _ => rfl
  | simple name content =>
    simp only [step, obtain_renumber]
    apply renumbered_bind
    intro _
    cases content <;> rfl
  | transition source target event =>
    simp only [step, obtain_renumber]
    apply renumbered_bind
    rintro ⟨id, between⟩
    simp only [obtain_renumber]
    exact renumbered_bind fun _ => rfl
  | content name text =>
    simp only [step, show (r.renumber place).draft = r.draft from rfl]
    split
    · rfl
    · split
      · rfl
      · rw [report_renumber]
        rfl
  | ignored => rfl

/-- Neither do the numbers of many lines. -/
theorem run_renumber (place : Nat → Nat) (o : Options) (r : Reading) (lines : List (Line × Nat)) :
    run o (r.renumber place) (lines.map fun entry => (entry.1, place entry.2)) =
      renumbered place (·.renumber place) (run o r lines) := by
  induction lines generalizing r with
  | nil => rfl
  | cons entry later ih =>
    obtain ⟨line, number⟩ := entry
    rw [List.map_cons, run_cons, run_cons, step_renumber]
    exact renumbered_bind ih

/-- Lines that say nothing are passed over. -/
theorem run_active (o : Options) (r : Reading) (lines : List (Line × Nat)) :
    run o r (active lines) = run o r lines := by
  unfold active
  induction lines generalizing r with
  | nil => rfl
  | cons entry later ih =>
    obtain ⟨line, number⟩ := entry
    rw [List.filter_cons]
    by_cases idle : line = .ignored
    · subst idle
      have quiet : ¬ (Line.ignored, number).1.isActive = true := Bool.false_ne_true
      rw [if_neg quiet, ih]
      rfl
    · have speaks : line.isActive = true := by simpa [Line.isActive] using idle
      rw [if_pos speaks, run_cons, run_cons]
      exact congrArg (r.step o number line >>= ·) (funext ih)

end Reading

/-- A diagram can be laid out anew without changing what it says. Lines that say nothing are put in,
blanks are added at the ends of lines, and lines end with a carriage return or without. The states are the
same, and the problems are the same ones on the same lines, which stand at other places now. -/
theorem analyze_laidOut (o : Options) {slots : List Slot} {text laidOut : String}
    (old : Composed text (slots.filterMap Slot.old?)) (new : Composed laidOut (slots.map Slot.new)) :
    analyze o laidOut =
      renumbered (Slot.place slots) (·.renumber (Slot.place slots)) (analyze o text) := by
  have ran : Reading.run o (.start o.startingId.toNat) (numberedLines laidOut) =
      renumbered (Slot.place slots) (·.renumber (Slot.place slots))
        (Reading.run o (.start o.startingId.toNat) (numberedLines text)) := by
    rw [← Reading.run_active o _ (numberedLines laidOut), new.active_numberedLines, active_renumber,
      ← old.active_numberedLines, ← Reading.run_active o _ (numberedLines text)]
    exact Reading.run_renumber _ o (.start o.startingId.toNat) _
  unfold analyze
  rw [ran]
  exact renumbered_bind fun _ => rfl

/-- A diagram with a nickname in conflict and a text for an unknown state. -/
def cramped : String :=
  "A --> B\nstate \"One\" as N\nstate \"Two\" as N\nGhost : lost\nB : note"

/-- The same diagram between remarks and empty lines, with tabulators and no-break spaces at the ends of its
lines, most of which end with a carriage return. -/
def widened : String :=
  "' A remark\r\n\tA --> B\r\n\r\nstate \"One\" as N\r\n  state \"Two\" as N\u00a0\n@enduml\r\n" ++
    "Ghost : lost\t \r\nB : note\r\n\u2003"

/-- How the one is made of the other. -/
def widening : List Slot :=
  [.added "' A remark" (by decide), .moved "A --> B" ⟨"\t", by simp; decide⟩ .none,
    .added "" (by decide), .moved "state \"One\" as N" .none .none,
    .moved "state \"Two\" as N" ⟨"  ", by simp; decide⟩ ⟨"\u00a0", by simp; decide⟩,
    .added "@enduml" (by decide), .moved "Ghost : lost" .none ⟨"\t ", by simp; decide⟩,
    .moved "B : note" .none .none, .added "\u2003" (by decide)]

theorem analyze_laidOut_widened :
    ∃ a, analyze { onUnresolved := .skip } cramped = .ok a ∧ a.diagnostics.map (·.line) = [3, 4] ∧
      analyze { onUnresolved := .skip } widened = .ok (a.renumber (Slot.place widening)) ∧
      (a.renumber (Slot.place widening)).diagnostics.map (·.line) = [5, 7] := by
  have old : Composed ("A --> B" ++ "\n" ++ ("state \"One\" as N" ++ "\n" ++ ("state \"Two\" as N" ++ "\n" ++
      ("Ghost : lost" ++ "\n" ++ "B : note")))) (widening.filterMap Slot.old?) :=
    .feed (by decide) (.feed (by decide) (.feed (by decide) (.feed (by decide) (.unended (by decide)))))
  have new : Composed ("' A remark" ++ "\r\n" ++ ("\tA --> B" ++ "\r\n" ++ ("" ++ "\r\n" ++
      ("state \"One\" as N" ++ "\r\n" ++ ("  state \"Two\" as N\u00a0" ++ "\n" ++ ("@enduml" ++ "\r\n" ++
      ("Ghost : lost\t " ++ "\r\n" ++ ("B : note" ++ "\r\n" ++ "\u2003"))))))))
      (widening.map Slot.new) :=
    .returnFeed (by decide) (.returnFeed (by decide) (.returnFeed (by decide) (.returnFeed (by decide)
      (.feed (by decide) (.returnFeed (by decide) (.returnFeed (by decide) (.returnFeed (by decide)
        (.unended (by decide)))))))))
  have same : analyze { onUnresolved := .skip } widened = renumbered (Slot.place widening)
      (·.renumber (Slot.place widening)) (analyze { onUnresolved := .skip } cramped) :=
    analyze_laidOut { onUnresolved := .skip } old new
  obtain ⟨a, read, lines, moved⟩ : ∃ a, analyze { onUnresolved := .skip } cramped = .ok a ∧
      a.diagnostics.map (·.line) = [3, 4] ∧
      (a.renumber (Slot.place widening)).diagnostics.map (·.line) = [5, 7] :=
    ⟨_, by cbv, by cbv, by cbv⟩
  rw [read] at same
  exact ⟨a, read, lines, same, moved⟩

end Statechart
