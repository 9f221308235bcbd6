import Mathlib
import Statechart.Proofs.JsonPrinting
import Statechart.Report.Structured

/-! A structured report can be read back. Each record is written as a value from which it is found again,
whatever its texts are and as long as its numbers have 64 bits; the value is printed as a document; and
a document writes one value only. So two analyses are never printed alike. -/
namespace Statechart

namespace Scope

/-- The numbers that a scope is written with. -/
def numbers (scope : Scope) : List Nat :=
  scope.id?.toList

end Scope

namespace Transition

/-- The numbers that a transition is written with. -/
def numbers (t : Transition) : List Nat :=
  [t.source, t.target]

end Transition

namespace State

/-- The numbers that a state is written with. -/
def numbers (s : State) : List Nat :=
  s.id :: s.owner.numbers ++ s.transitions.flatMap Transition.numbers

end State

namespace Diagnostic

/-- The numbers that a diagnostic is written with. -/
def numbers (d : Diagnostic) : List Nat :=
  match d.issue with
  | .identifierOverflow lastId => [d.line, lastId]
  | .unresolvedReference _ | .aliasConflict .. => [d.line]

end Diagnostic

/-- All numbers of an analysis have 64 bits. -/
def Analysis.IsStorable (a : Analysis) : Prop :=
  ∀ n ∈ a.states.flatMap State.numbers ++ a.diagnostics.flatMap Diagnostic.numbers, n < UInt64.size

instance (a : Analysis) : Decidable a.IsStorable :=
  inferInstanceAs (Decidable (∀ _ ∈ _, _))

namespace Json

theorem word?_natural {n : Nat} (storable : n < UInt64.size) : (natural n).word? = some n :=
  if_pos storable

/-- Items that can be read back one by one can be read back together. -/
theorem list?_map {α : Type} {read : Json → Option α} {write : α → Json} {items : List α}
    (each : ∀ item ∈ items, read (write item) = some item) :
    list? read (.array (items.map write)) = some items := by
  simp only [list?, items?, Option.bind_some]
  induction items with
  | nil => rfl
  | cons item later ih =>
    rw [List.map_cons, List.mapM_cons, each item List.mem_cons_self,
      ih fun other member => each other (List.mem_cons_of_mem item member)]
    rfl

end Json

namespace Kind

theorem ofJson?_toJson (kind : Kind) : ofJson? kind.toJson = some kind := by
  cases kind <;> rfl

@[simp] theorem printsText_toJson (kind : Kind) : kind.toJson.PrintsText := by
  cases kind <;> simp [toJson]

end Kind

namespace Scope

theorem ofJson?_toJson {scope : Scope} (storable : ∀ n ∈ scope.numbers, n < UInt64.size) :
    ofJson? scope.toJson = some scope := by
  cases scope with
  | root => rfl
  | state id =>
    have small : id < UInt64.size := storable id List.mem_cons_self
    simp [ofJson?, toJson, Json.variant?, ofVariant?, Json.word?_natural small]

@[simp] theorem printsText_toJson (scope : Scope) : scope.toJson.PrintsText := by
  cases scope <;> simp [toJson]

end Scope

namespace Transition

theorem ofJson?_toJson {t : Transition} (storable : ∀ n ∈ t.numbers, n < UInt64.size) :
    ofJson? t.toJson = some t := by
  have source : t.source < UInt64.size := storable _ (by simp [numbers])
  have target : t.target < UInt64.size := storable _ (by simp [numbers])
  have event : eventOfJson? (some (.ofOption t.event)) = some t.event := by
    cases t.event <;> rfl
  simp [ofJson?, toJson, Json.fields?, Json.get?, List.lookup, Json.word?_natural source,
    Json.word?_natural target, event]

@[simp] theorem printsText_toJson (t : Transition) : t.toJson.PrintsText := by
  have event : (Json.ofOption t.event).PrintsText := by
    cases t.event <;> simp [Json.ofOption]
  simp [toJson, event]

end Transition

namespace State

theorem ofJson?_toJson {s : State} (storable : ∀ n ∈ s.numbers, n < UInt64.size) :
    ofJson? s.toJson = some s := by
  have id : s.id < UInt64.size := storable _ (by simp [numbers])
  have owner : Scope.ofJson? s.owner.toJson = some s.owner := by
    refine Scope.ofJson?_toJson fun n member => storable n ?_
    simp [numbers, member]
  have transitions : Json.list? Transition.ofJson? (.array (s.transitions.map Transition.toJson)) =
      some s.transitions := by
    refine Json.list?_map fun t listed => Transition.ofJson?_toJson fun n member => storable n ?_
    exact List.mem_append_right _ (List.mem_flatMap.mpr ⟨t, listed, member⟩)
  simp [ofJson?, toJson, Json.fields?, Json.get?, List.lookup, Json.word?_natural id, Json.string?,
    Kind.ofJson?_toJson, owner, transitions]

@[simp] theorem printsText_toJson (s : State) : s.toJson.PrintsText := by
  simp [toJson]

end State

namespace Diagnostic

theorem ofJson?_toJson {d : Diagnostic} (storable : ∀ n ∈ d.numbers, n < UInt64.size) :
    ofJson? d.toJson = some d := by
  obtain ⟨line, issue⟩ := d
  have small : line < UInt64.size := storable line (by cases issue <;> simp [numbers])
  cases issue with
  | unresolvedReference name =>
    simp [ofJson?, toJson, Issue.members, Issue.ofJson?, Json.get?, List.lookup,
      Json.word?_natural small, Json.string?]
  | identifierOverflow lastId =>
    have last : lastId < UInt64.size := storable lastId (by simp [numbers])
    simp [ofJson?, toJson, Issue.members, Issue.ofJson?, Json.get?, List.lookup,
      Json.word?_natural small, Json.word?_natural last, Json.string?]
  | aliasConflict nickname existing requested =>
    simp [ofJson?, toJson, Issue.members, Issue.ofJson?, Json.get?, List.lookup,
      Json.word?_natural small, Json.string?]

@[simp] theorem printsText_toJson (d : Diagnostic) : d.toJson.PrintsText := by
  obtain ⟨line, issue⟩ := d
  cases issue <;> simp [toJson, Issue.members]

end Diagnostic

namespace Report

variable {a b : Analysis}

theorem printsText_toJson (a : Analysis) : (toJson a).PrintsText := by
  simp [toJson]

theorem spells_pretty (a : Analysis) : Json.Spells (toJson a) (toJson a).pretty.toList := by
  rw [Json.pretty, String.toList_ofList]
  exact printsText_toJson a 0

/-- A report is a document, because the line feed after the value is a gap. -/
theorem document_structured (a : Analysis) : Json.Document (toJson a) (structured a) := by
  have feed : Json.IsGaps ['\n'] := by simp [Json.IsGaps, Json.isGap]
  exact ⟨[], _, ['\n'], Json.isGaps_nil, spells_pretty a, feed, by simp [structured]⟩

theorem read_states (storable : a.IsStorable) :
    ((toJson a).get? "states").bind (Json.list? State.ofJson?) = some a.states := by
  have each : ∀ s ∈ a.states, State.ofJson? s.toJson = some s := fun s member =>
    State.ofJson?_toJson fun n number =>
      storable n (List.mem_append_left _ (List.mem_flatMap.mpr ⟨s, member, number⟩))
  simpa [toJson, Json.get?, List.lookup] using Json.list?_map each

theorem read_diagnostics (storable : a.IsStorable) :
    ((toJson a).get? "diagnostics").bind (Json.list? Diagnostic.ofJson?) = some a.diagnostics := by
  have each : ∀ d ∈ a.diagnostics, Diagnostic.ofJson? d.toJson = some d := fun d member =>
    Diagnostic.ofJson?_toJson fun n number =>
      storable n (List.mem_append_right _ (List.mem_flatMap.mpr ⟨d, member, number⟩))
  simpa [toJson, Json.get?, List.lookup] using Json.list?_map each

theorem read_summary (a : Analysis) : ∃ summary, (toJson a).get? "summary" = some summary ∧
    summary.get? "total_states" = some (.natural a.states.length) ∧
    summary.get? "total_transitions" = some (.natural a.transitionCount) ∧
    summary.get? "last_id" = some (.natural a.lastId) := by
  simp [toJson, Json.get?, List.lookup]

/-- Reports of different analyses are different values. -/
theorem toJson_injective (storable : a.IsStorable) (storableToo : b.IsStorable)
    (same : toJson a = toJson b) : a = b := by
  have states := (read_states storable).symm.trans (same ▸ read_states storableToo)
  have diagnostics := (read_diagnostics storable).symm.trans (same ▸ read_diagnostics storableToo)
  obtain ⟨summary, here, -, -, lastId⟩ := read_summary a
  obtain ⟨summaryToo, hereToo, -, -, lastIdToo⟩ := read_summary b
  rw [same, hereToo] at here
  cases here
  rw [lastIdToo] at lastId
  obtain ⟨statesA, diagnosticsA, lastIdA⟩ := a
  cases states
  cases diagnostics
  cases lastId
  rfl

end Report

/-- A structured report is one document and a line feed. It writes one value only, and reading finds it: the
states of the analysis are found in it, its diagnostics, and a summary with the number of states, the
number of transitions and the identifier handed out last. So the text of a report tells the analysis. -/
theorem structured_round_trip {a : Analysis} (storable : a.IsStorable) :
    (∃ (document : String) (value : Json),
      Report.structured a = document ++ "\n" ∧ Json.Spells value document.toList ∧
      Json.read? (Report.structured a) = some value ∧
      (∀ other, Json.Document other (Report.structured a) → other = value) ∧
      (value.get? "states").bind (Json.list? State.ofJson?) = some a.states ∧
      (value.get? "diagnostics").bind (Json.list? Diagnostic.ofJson?) = some a.diagnostics ∧
      ∃ summary, value.get? "summary" = some summary ∧
        summary.get? "total_states" = some (.natural a.states.length) ∧
        summary.get? "total_transitions" = some (.natural a.transitionCount) ∧
        summary.get? "last_id" = some (.natural a.lastId)) ∧
    ∀ b : Analysis, b.IsStorable → Report.structured b = Report.structured a → b = a := by
  have document := Report.document_structured a
  constructor
  · exact ⟨(Report.toJson a).pretty, Report.toJson a, rfl, Report.spells_pretty a, document.read?_eq,
      fun _ other => other.unique document, Report.read_states storable,
      Report.read_diagnostics storable, Report.read_summary a⟩
  · intro b storableToo same
    have documentToo := Report.document_structured b
    rw [same] at documentToo
    exact Report.toJson_injective storableToo storable (documentToo.unique document)

/-- Texts with marks, line ends and control characters, a label that is a word for another kind, the
largest identifier, transitions with and without an event, and a report of each kind. -/
def awkward : Analysis where
  states :=
    [{ State.blank 1 "a \"b\" \\ \n\t\x01\x7fé😀" (.custom "fork") .root with
        content := "\r\n\x08\x0c", transitions := [⟨1, StateId.max, none⟩, ⟨1, 1, some ""⟩] },
      State.blank StateId.max "" .finish (.state 1)]
  diagnostics :=
    [{ line := 1, issue := .unresolvedReference "\x00" },
      { line := 2, issue := .aliasConflict "a" "b" "\"" },
      { line := StateId.max, issue := .identifierOverflow StateId.max }]
  lastId := StateId.max

theorem structured_round_trip_awkward :
    awkward.IsStorable ∧
      (∃ value, Json.read? (Report.structured awkward) = some value ∧
        (value.get? "states").bind (Json.list? State.ofJson?) = some awkward.states ∧
        (value.get? "diagnostics").bind (Json.list? Diagnostic.ofJson?) = some awkward.diagnostics) ∧
      Report.structured awkward ≠ Report.structured { awkward with lastId := 1 } := by
  have storable : awkward.IsStorable := by decide
  have storableToo : { awkward with lastId := 1 }.IsStorable := storable
  obtain ⟨⟨document, value, -, -, read, -, states, diagnostics, -⟩, different⟩ :=
    structured_round_trip storable
  refine ⟨storable, ⟨value, read, states, diagnostics⟩, fun same => ?_⟩
  have lastId := congrArg Analysis.lastId (different _ storableToo same.symm)
  cases lastId

end Statechart
