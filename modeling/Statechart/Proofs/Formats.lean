import Statechart.Command.Run
import Statechart.Proofs.Conservation
import Statechart.Proofs.ListingRows
import Statechart.Proofs.StructuredReports

/-! The formats of a report. Whether there is a report is decided before its format is looked at and before
anything is written, so a request fails in every format for the same reason, or in none, and a request that fails
leaves nothing behind. What the formats print is taken from different sources: a listing and a structured report
count what an analysis lists, a summary counts the nodes and the edges of a graph. The totals that can be read off
them are those of the analysis all the same, because every transition of a diagram is an edge of its graph. -/
namespace Statechart

namespace Text

/-- The number that follows a label on a line, if there is nothing else on it. -/
def numberAfter? (label : String) (line : List Char) : Option Nat :=
  (label.toList.isPrefixOf? line).bind fun digits =>
    if isDigits digits then some (ofDigits digits) else none

theorem isDigits_toDigits (n : Nat) : isDigits (Nat.toDigits 10 n) = true := by
  have whole := isWhole_toDigits n
  simpa [isDigits, ne_nil_of_isWhole whole] using isDigit_of_isWhole whole

theorem numberAfter?_label (label : String) (n : Nat) :
    numberAfter? label (label ++ toString n).toList = some n := by
  have found : label.toList.isPrefixOf? (label ++ toString n).toList = some (Nat.toDigits 10 n) := by
    rw [List.isPrefixOf?_eq_some_iff_append_eq]
    simp
  rw [numberAfter?, found, Option.bind_some, if_pos (isDigits_toDigits n), ofDigits_toDigits]

/-- A label is not found where another one of the same length stands. -/
theorem numberAfter?_other {label other : String} (different : label ≠ other)
    (sameLength : label.length = other.length) (rest : String) :
    numberAfter? label (other ++ rest).toList = none := by
  have apart : ¬ label.toList <+: (other ++ rest).toList := by
    intro begins
    rw [String.toList_append] at begins
    refine different (String.toList_inj.mp ?_)
    have lengths : label.toList.length = other.toList.length := by
      rw [String.length_toList, String.length_toList, sameLength]
    exact (List.prefix_of_prefix_length_le begins (List.prefix_append _ _) lengths.le).eq_of_length lengths
  rw [numberAfter?, isPrefixOf?_eq_none_iff.mpr apart, Option.bind_none]

end Text

namespace Report

variable {label other row : String} {before rows : List String} {a : Analysis}

/-- The number after the first such label that a line of a text starts with. -/
def labelled? (label text : String) : Option Nat :=
  (Text.lines text.toList).findSome? (Text.numberAfter? label)

/-- A row that ends where it seems to. -/
def Closed (row : String) : Prop :=
  OneLine row ∧ row.toList.getLast? ≠ some '\r'

instance (row : String) : Decidable (Closed row) :=
  inferInstanceAs (Decidable (_ ∧ _))

theorem closed_total (whole : OneLine label) (n : Nat) : Closed (label ++ toString n) := by
  refine ⟨oneLine_append.mpr ⟨whole, oneLine_toString n⟩, fun last => ?_⟩
  have ends : (Nat.toDigits 10 n).getLast? = some '\r' := by
    simpa [List.getLast?_append_of_ne_nil _ Nat.toDigits_ne_nil] using last
  have digit := Nat.isDigit_of_mem_toDigits (by decide) (by decide) (List.mem_of_getLast? ends)
  exact absurd digit (by decide)

theorem lines_joinLines_cons (closed : Closed row) (rows : List String) :
    Text.lines (joinLines (row :: rows)).toList = row.toList :: Text.lines (joinLines rows).toList := by
  have shape : (joinLines (row :: rows)).toList = row.toList ++ '\n' :: (joinLines rows).toList := by
    simp [joinLines]
  rw [shape, Text.lines_feed _ closed.1, Text.stripReturn, if_neg closed.2]

/-- A row that tells no number after a label. -/
def Silent (label row : String) : Prop :=
  Closed row ∧ Text.numberAfter? label row.toList = none

instance (label row : String) : Decidable (Silent label row) :=
  inferInstanceAs (Decidable (_ ∧ _))

/-- A number is found behind rows that do not tell it. -/
theorem labelled?_joinLines (whole : OneLine label) (silent : ∀ row ∈ before, Silent label row) (n : Nat)
    (after : List String) :
    labelled? label (joinLines (before ++ (label ++ toString n) :: after)) = some n := by
  unfold labelled?
  induction before with
  | nil =>
    rw [List.nil_append, lines_joinLines_cons (closed_total whole n), List.findSome?_cons,
      Text.numberAfter?_label]
  | cons row before ih =>
    obtain ⟨⟨closed, nothing⟩, later⟩ := List.forall_mem_cons.mp silent
    rw [List.cons_append, lines_joinLines_cons closed, List.findSome?_cons, nothing, ih later]

/-- Two totals that follow each other are both found, because neither label is taken for the other. -/
theorem labelled?_pair (whole : OneLine label) (wholeOther : OneLine other) (different : other ≠ label)
    (sameLength : other.length = label.length) (silent : ∀ row ∈ before, Silent label row)
    (silentOther : ∀ row ∈ before, Silent other row) (n m : Nat) (after : List String) :
    labelled? label
        (joinLines (before ++ (label ++ toString n) :: (other ++ toString m) :: after)) = some n ∧
      labelled? other
        (joinLines (before ++ (label ++ toString n) :: (other ++ toString m) :: after)) = some m := by
  refine ⟨labelled?_joinLines whole silent n _, ?_⟩
  have passed : ∀ row ∈ before ++ [label ++ toString n], Silent other row := by
    refine List.forall_mem_append.mpr ⟨silentOther, List.forall_mem_singleton.mpr ?_⟩
    exact ⟨closed_total whole n, Text.numberAfter?_other different sameLength _⟩
  rw [List.append_cons]
  exact labelled?_joinLines wholeOther passed m after

/-- How many states and how many transitions there are. -/
structure Totals where
  /-- The number of states. -/
  states : Nat
  /-- The number of transitions. -/
  transitions : Nat
deriving DecidableEq, Repr

/-- The natural number under a name. -/
def natural? (name : String) (value : Json) : Option Nat :=
  match value.get? name with
  | some (.natural n) => some n
  | _ => none

/-- The totals that a report in some format shows. -/
def totals? : Format → String → Option Totals
  | .listing, text => do
    let states ← labelled? "  Total States:       " text
    let transitions ← labelled? "  Total Transitions:  " text
    return { states, transitions }
  | .structured, text => do
    let summary ← (← Json.read? text).get? "summary"
    let states ← natural? "total_states" summary
    let transitions ← natural? "total_transitions" summary
    return { states, transitions }
  | .summary, text => do
    let states ← labelled? "Total States:       " text
    let transitions ← labelled? "Total Transitions:  " text
    return { states, transitions }

theorem totals?_listing (a : Analysis) :
    totals? .listing (listing a) = some ⟨a.states.length, a.transitionCount⟩ := by
  have found : labelled? "  Total States:       " (listing a) = some a.states.length ∧
      labelled? "  Total Transitions:  " (listing a) = some a.transitionCount :=
    @labelled?_pair _ _ ["State Graph - Analysis Results", rule '=', "", "Summary:"] (by decide) (by decide)
      (by decide) (by decide) (by decide) (by decide) _ _ _
  simp [totals?, found]

theorem totals?_summary (stats : GraphStats) :
    totals? .summary (summary stats) = some ⟨stats.totalStates, stats.totalTransitions⟩ := by
  have found : labelled? "Total States:       " (summary stats) = some stats.totalStates ∧
      labelled? "Total Transitions:  " (summary stats) = some stats.totalTransitions :=
    @labelled?_pair _ _ [] (by decide) (by decide) (by decide) (by decide) (by decide) (by decide) _ _ _
  simp [totals?, found]

theorem totals?_structured (a : Analysis) :
    totals? .structured (structured a) = some ⟨a.states.length, a.transitionCount⟩ := by
  obtain ⟨summary, held, states, transitions, -⟩ := read_summary a
  simp [totals?, (document_structured a).read?_eq, held, natural?, states, transitions]

end Report

namespace Command

variable {c : Command} {s : Surroundings} {o : Options} {config : Config} {a : Analysis}

/-- The same request in another format. -/
def inFormat (c : Command) (format : Format) : Command :=
  { c with format }

/-- What is shown does not depend on how it is shown. -/
@[simp] theorem analysis_inFormat (c : Command) (format : Format) (s : Surroundings) (o : Options) :
    (c.inFormat format).analysis s o = c.analysis s o := rfl

@[simp] theorem configuration_inFormat (c : Command) (format : Format) (s : Surroundings) :
    (c.inFormat format).configuration s = c.configuration s := rfl

/-- What is shown is what the diagram says. -/
theorem analysis_eq_ok_iff :
    c.analysis s o = .ok a ↔ ∃ text, c.diagram s = .ok text ∧ analyze (c.options o) text = .ok a := by
  unfold analysis
  rw [bind_eq_ok_iff]
  refine exists_congr fun text => and_congr_right fun _ => ?_
  cases analyze (c.options o) text <;> simp [Except.mapError]

/-- An analysis is written after all else, and if there is none, nothing is written. -/
theorem execute_run (c : Command) (s : Surroundings) (o : Options) (written : String) :
    (c.execute s o).run written =
      match c.analysis s o with
      | .ok a => .ok () (written ++ present c.format a)
      | .error reason => .error reason written := by
  unfold execute
  cases c.analysis s o <;> rfl

theorem perform_of_error {reason : Failure} (failed : c.analysis s config.options = .error reason) :
    c.perform s config = .failed { written := "", reason } := by
  rw [perform, execute_run, failed]

theorem perform_of_ok (shown : c.analysis s config.options = .ok a) :
    c.perform s config = .printed (present c.format a) := by
  simp only [perform, execute_run, shown, String.empty_append]

/-- In every format, the totals of a diagram can be read off what is shown. -/
theorem totals?_present {text : String} (read : analyze o text = .ok a) (format : Format) :
    Report.totals? format (present format a) = some ⟨a.states.length, a.transitionCount⟩ := by
  cases format with
  | listing => exact Report.totals?_listing a
  | structured => exact Report.totals?_structured a
  | summary =>
    have nodes : (Graph.ofStates a.states).stats.totalStates = a.states.length := by
      simp only [Graph.stats, Graph.nodes_length, Graph.ofStates_states]
    have edges : (Graph.ofStates a.states).stats.totalTransitions = a.transitionCount :=
      edgeCount_of_analyze read
    rw [present, Report.totals?_summary, nodes, edges]

/-- With a configuration, a request fails for the same reason in every format and writes nothing, or it is
answered in every format, and always with the totals of the diagram. -/
theorem perform_inFormat (c : Command) (s : Surroundings) (config : Config) :
    (∃ reason, c.analysis s config.options = .error reason ∧
      ∀ format, (c.inFormat format).perform s config = .failed { written := "", reason }) ∨
    ∃ a, c.analysis s config.options = .ok a ∧
      ∀ format, ∃ text, (c.inFormat format).perform s config = .printed text ∧
        Report.totals? format text = some ⟨a.states.length, a.transitionCount⟩ := by
  have same (format : Format) := c.analysis_inFormat format s config.options
  cases shown : c.analysis s config.options with
  | error reason => exact .inl ⟨reason, rfl, fun format => perform_of_error ((same format).trans shown)⟩
  | ok a =>
    obtain ⟨text, -, read⟩ := analysis_eq_ok_iff.mp shown
    refine .inr ⟨a, rfl, fun format => ?_⟩
    exact ⟨_, perform_of_ok ((same format).trans shown), totals?_present read format⟩

theorem run_of_configured {arguments : List String}
    (accepted : ofArguments arguments = .ok c) (configured : c.configuration s = .ok config) :
    run s arguments = c.perform s config := by
  rw [run, accepted]
  dsimp only
  rw [configured]

theorem run_of_unconfigured {arguments : List String} {reason : Failure}
    (accepted : ofArguments arguments = .ok c) (failed : c.configuration s = .error reason) :
    run s arguments = .unconfigured reason := by
  rw [run, accepted]
  dsimp only
  rw [failed]

end Command

/-- Whatever is asked for and whatever the surroundings are, the outcome is the same in every format but for the
text that is written. With any configuration, either there is nothing to show, and the request fails in every format
for that one reason and before anything is written, or it is answered in every format, and the numbers of states and
of transitions that can be read off the answer are those of the diagram. So it is with the whole program too, for
arguments that ask for the same in different formats: without a usable configuration, all fail alike; with one, it is
as before. -/
theorem formats_agree (c : Command) (s : Command.Surroundings) :
    (∀ config : Config,
      (∃ reason, c.analysis s config.options = .error reason ∧
        ∀ format, (c.inFormat format).perform s config = .failed { written := "", reason }) ∨
      ∃ a, c.analysis s config.options = .ok a ∧
        ∀ format, ∃ text, (c.inFormat format).perform s config = .printed text ∧
          Report.totals? format text = some ⟨a.states.length, a.transitionCount⟩) ∧
    ∀ arguments : Format → List String,
      (∀ format, Command.ofArguments (arguments format) = .ok (c.inFormat format)) →
      (∃ reason, c.configuration s = .error reason ∧
        ∀ format, Command.run s (arguments format) = .unconfigured reason ∧
          Command.standardOutput s (arguments format) = "") ∨
      ∃ config, c.configuration s = .ok config ∧
        ((∃ reason, c.analysis s config.options = .error reason ∧
          ∀ format, Command.run s (arguments format) = .failed { written := "", reason } ∧
            Command.standardOutput s (arguments format) = "") ∨
        ∃ a, c.analysis s config.options = .ok a ∧
          ∀ format, ∃ text, Command.run s (arguments format) = .printed text ∧
            Command.standardOutput s (arguments format) = text ∧
            Report.totals? format text = some ⟨a.states.length, a.transitionCount⟩) := by
  refine ⟨c.perform_inFormat s, ?_⟩
  intro arguments accepted
  have alike (format : Format) := c.configuration_inFormat format s
  cases configured : c.configuration s with
  | error reason =>
    refine .inl ⟨reason, rfl, fun format => ?_⟩
    have ran := Command.run_of_unconfigured (accepted format) ((alike format).trans configured)
    exact ⟨ran, by rw [Command.standardOutput, ran]⟩
  | ok config =>
    have ran (format : Format) : Command.run s (arguments format) = (c.inFormat format).perform s config :=
      Command.run_of_configured (accepted format) ((alike format).trans configured)
    refine .inr ⟨config, rfl, ?_⟩
    rcases c.perform_inFormat s config with ⟨reason, same, failed⟩ | ⟨a, same, printed⟩
    · refine .inl ⟨reason, same, fun format => ?_⟩
      have outcome := (ran format).trans (failed format)
      exact ⟨outcome, by rw [Command.standardOutput, outcome]⟩
    · refine .inr ⟨a, same, fun format => ?_⟩
      obtain ⟨text, shown, told⟩ := printed format
      have outcome := (ran format).trans shown
      exact ⟨text, outcome, by rw [Command.standardOutput, outcome], told⟩

/-- Arguments that ask for the diagram on standard input, with what is left out made plain. -/
def asking : Format → List String
  | .listing => ["analyze", "-", "--starting-id=6"]
  | .structured => ["analyze", "-o", "json", "--starting-id", "6", "-"]
  | .summary => ["analyze", "--starting-id", "+6", "--output=summary", "--", "-"]

/-- What they ask for. -/
def asked : Command := ⟨none, "-", .listing, some 6, none, none⟩

/-- A diagram on standard input, and what is in the first place for configurations. -/
def piped (text : String) (config : Found := .absent .notFound) : Command.Surroundings where
  files path := if path = "stategraph.toml" then config else .absent .notFound
  standardInput := .ok text
  home := none

/-- A configuration that is there, but is for others to read. -/
def locked : Command.Surroundings :=
  piped "A --> B" (.unreadable (.other "Permission denied (os error 13)"))

/-- A text for a state that is not there. -/
def ghostly : Command.Surroundings :=
  piped "A --> B\nGhost : x"

/-- A start, two states, and transitions between them in all ways but one. -/
def circular : Command.Surroundings :=
  piped "A --> B\nB --> A\n[*] --> A\nA --> A"

theorem formats_agree_piped :
    (∀ format, Command.run locked (asking format) = .unconfigured
        (.config "Failed to read config file \"stategraph.toml\": Permission denied (os error 13)") ∧
      Command.standardOutput locked (asking format) = "") ∧
    (∀ format, Command.run ghostly (asking format) =
        .failed { written := "", reason := .analysis ⟨2, .unresolvedReference "Ghost"⟩ } ∧
      Command.standardOutput ghostly (asking format) = "") ∧
    ∀ format, ∃ text, Command.run circular (asking format) = .printed text ∧
      Command.standardOutput circular (asking format) = text ∧
      Report.totals? format text = some ⟨3, 4⟩ := by
  have accepted (format : Format) : Command.ofArguments (asking format) = .ok (asked.inFormat format) := by
    cases format <;> decide +kernel
  refine ⟨?_, ?_, ?_⟩
  · have none : asked.configuration locked = .error
        (.config "Failed to read config file \"stategraph.toml\": Permission denied (os error 13)") := by
      decide +kernel
    rcases (formats_agree asked locked).2 asking accepted with ⟨_, same, ran⟩ | ⟨_, same, -⟩
    · cases none.symm.trans same
      exact ran
    · cases none.symm.trans same
  · have configured : asked.configuration ghostly = .ok {} := by decide +kernel
    have failed : asked.analysis ghostly {} = .error (.analysis ⟨2, .unresolvedReference "Ghost"⟩) := by
      decide +kernel
    rcases (formats_agree asked ghostly).2 asking accepted with ⟨_, same, -⟩ | ⟨_, same, outcome⟩
    · cases configured.symm.trans same
    · cases configured.symm.trans same
      rcases outcome with ⟨_, same, ran⟩ | ⟨_, same, -⟩
      · cases failed.symm.trans same
        exact ran
      · cases failed.symm.trans same
  · have configured : asked.configuration circular = .ok {} := by decide +kernel
    have shown : ∃ a, asked.analysis circular {} = .ok a ∧ a.states.length = 3 ∧ a.transitionCount = 4 :=
      ⟨_, by cbv, by cbv, by cbv⟩
    obtain ⟨a, shown, states, transitions⟩ := shown
    rcases (formats_agree asked circular).2 asking accepted with ⟨_, same, -⟩ | ⟨_, same, outcome⟩
    · cases configured.symm.trans same
    · cases configured.symm.trans same
      rcases outcome with ⟨_, same, -⟩ | ⟨b, same, ran⟩
      · cases shown.symm.trans same
      · cases shown.symm.trans same
        rwa [states, transitions] at ran

end Statechart
