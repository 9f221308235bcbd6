import Statechart.Proofs.LineBreaks
import Statechart.Report.Listing

/-! The rows of a listing. What a diagram says can make a row wide, but it cannot end one: a row is filled
from texts that fit on a line, and the texts of a state, which need not, are cut into lines first. So a listing
has the rows that its totals, states, transitions, texts and diagnostics account for, and no others. -/
namespace Statechart

theorem Scope.oneLine_text (scope : Scope) : OneLine scope.text := by
  cases scope with
  | root => decide
  | state id => exact oneLine_toString id

theorem Kind.Unbroken.oneLine_text {kind : Kind} (unbroken : kind.Unbroken) : OneLine kind.text := by
  cases kind with
  | custom label =>
    show OneLine (_ ++ label ++ _)
    simp only [oneLine_append, unbroken label rfl]
    simp [OneLine]
  | plain | initial | history | fork | join | choice | start | finish => decide

theorem State.Unbroken.oneLine_short {s : State} (unbroken : s.Unbroken) : OneLine s.short := by
  unfold State.short
  split
  · show OneLine (s.name ++ " (" ++ toString s.id ++ ")")
    simp only [oneLine_append, oneLine_toString, unbroken.name]
    simp [OneLine]
  · show OneLine (s.name ++ " [" ++ s.kind.text ++ "] (" ++ toString s.id ++ ")")
    simp only [oneLine_append, oneLine_toString, unbroken.name, unbroken.kind.oneLine_text]
    simp [OneLine]

namespace Report

variable {a : Analysis} {s : State} {text : String}

theorem oneLine_spaces (n : Nat) : OneLine (String.ofList (List.replicate n ' ')) := by
  simp [OneLine]

theorem oneLine_alignRight (width : Nat) (whole : OneLine text) : OneLine (alignRight width text) :=
  oneLine_append.mpr ⟨oneLine_spaces _, whole⟩

theorem oneLine_alignLeft (width : Nat) (whole : OneLine text) : OneLine (alignLeft width text) :=
  oneLine_append.mpr ⟨whole, oneLine_spaces _⟩

theorem oneLine_rule {c : Char} (other : c ≠ '\n') : OneLine (rule c) := by
  simp [OneLine, rule, other.symm]

theorem oneLine_row {id name kind owner : String} (numbered : OneLine id) (named : OneLine name)
    (played : OneLine kind) (owned : OneLine owner) : OneLine (row id name kind owner) := by
  simp only [row, oneLine_append, oneLine_alignRight, oneLine_alignLeft, numbered, named, played, owned]
  simp [OneLine]

theorem oneLine_targetText (unbroken : ∀ s ∈ a.states, s.Unbroken) (id : StateId) :
    OneLine (targetText a id) := by
  unfold targetText
  split
  · rename_i target found
    exact (unbroken target (List.mem_of_find?_eq_some found)).oneLine_short
  · simp only [oneLine_append, oneLine_toString]
    simp [OneLine]

/-- The lines for a state are its row, one for each line of its text, and one for each of its transitions. -/
theorem length_stateLines (a : Analysis) (s : State) :
    (stateLines a s).length = 1 + (Text.lines s.content.toList).length + s.transitions.length := by
  simp [stateLines]
  omega

/-- Each of them fits on one line, because the text is cut before it is listed. -/
theorem oneLine_of_mem_stateLines (unbroken : ∀ s ∈ a.states, s.Unbroken) (member : s ∈ a.states) :
    ∀ line ∈ stateLines a s, OneLine line := by
  have here := unbroken s member
  intro line inside
  rcases List.mem_cons.mp inside with rfl | inside
  · exact oneLine_row (oneLine_toString _) here.name here.kind.oneLine_text s.owner.oneLine_text
  · rcases List.mem_append.mp inside with textual | leaving
    · obtain ⟨part, cut, rfl⟩ := List.mem_map.mp textual
      have whole : OneLine (String.ofList part) := by
        rw [OneLine, String.toList_ofList]
        exact Text.not_mem_of_mem_lines cut
      have bar : OneLine (alignRight 8 "|") := oneLine_alignRight 8 (by decide)
      simp only [oneLine_append, bar, whole]
      simp [OneLine]
    · obtain ⟨t, listed, rfl⟩ := List.mem_map.mp leaving
      have label : OneLine t.label := by
        unfold Transition.label
        cases happens : t.event with
        | none => simp [OneLine]
        | some event => exact here.events t listed event happens
      have margin : OneLine (alignRight 8 "") := oneLine_alignRight 8 (by decide)
      simp only [oneLine_append, margin, oneLine_targetText unbroken, here.name, label]
      simp [OneLine]

/-- A listing has eight lines for the totals; five more and those of the states if there are any, and two more
and one for each if there are diagnostics. -/
theorem length_listingLines (a : Analysis) :
    (listingLines a).length = 8 +
      (if a.states = [] then 0 else 5 + (a.states.map fun s =>
        1 + (Text.lines s.content.toList).length + s.transitions.length).sum) +
      (if a.diagnostics = [] then 0 else 2 + a.diagnostics.length) := by
  have table : (stateTable a).length = if a.states = [] then 0 else 5 + (a.states.map fun s =>
      1 + (Text.lines s.content.toList).length + s.transitions.length).sum := by
    unfold stateTable
    simp only [List.isEmpty_iff]
    split
    · rfl
    · have rows : (a.states.flatMap (stateLines a)).length = (a.states.map fun s =>
          1 + (Text.lines s.content.toList).length + s.transitions.length).sum := by
        simp only [List.length_flatMap, length_stateLines]
      simp only [List.length_append, List.length_cons, List.length_nil, rows]
      omega
  have problems : (diagnosticList a).length =
      if a.diagnostics = [] then 0 else 2 + a.diagnostics.length := by
    unfold diagnosticList
    simp only [List.isEmpty_iff]
    split
    · rfl
    · simp only [List.length_append, List.length_cons, List.length_map, List.length_nil]
      omega
  rw [listingLines, List.length_append, List.length_append, table, problems]
  rfl

theorem oneLine_of_mem_stateTable (unbroken : ∀ s ∈ a.states, s.Unbroken) :
    ∀ line ∈ stateTable a, OneLine line := by
  unfold stateTable
  split
  · exact fun _ member => nomatch member
  · refine List.forall_mem_append.mpr ⟨List.forall_mem_append.mpr ⟨?_, ?_⟩, by simp [OneLine]⟩
    · have head : OneLine (row "Id" "Name" "Kind" "Owner") :=
        oneLine_row (by decide) (by decide) (by decide) (by decide)
      simp only [List.forall_mem_cons, oneLine_rule (show '-' ≠ '\n' by decide), head, true_and]
      simp [OneLine]
    · intro line member
      obtain ⟨s, there, inside⟩ := List.mem_flatMap.mp member
      exact oneLine_of_mem_stateLines unbroken there line inside

theorem oneLine_of_mem_diagnosticList (reported : ∀ d ∈ a.diagnostics, OneLine d.message) :
    ∀ line ∈ diagnosticList a, OneLine line := by
  unfold diagnosticList
  split
  · exact fun _ member => nomatch member
  · refine List.forall_mem_append.mpr ⟨?_, by simp [OneLine]⟩
    refine List.forall_mem_cons.mpr ⟨by simp [OneLine], ?_⟩
    intro line member
    obtain ⟨d, there, rfl⟩ := List.mem_map.mp member
    exact oneLine_append.mpr ⟨by decide, reported d there⟩

theorem oneLine_of_mem_listingLines (unbroken : ∀ s ∈ a.states, s.Unbroken)
    (reported : ∀ d ∈ a.diagnostics, OneLine d.message) : ∀ line ∈ listingLines a, OneLine line := by
  unfold listingLines
  refine List.forall_mem_append.mpr ⟨List.forall_mem_append.mpr ⟨?_, oneLine_of_mem_stateTable unbroken⟩,
    oneLine_of_mem_diagnosticList reported⟩
  simp only [List.forall_mem_cons, oneLine_append, oneLine_toString,
    oneLine_rule (show '=' ≠ '\n' by decide), and_true, true_and]
  simp [OneLine]

/-- Lines that are put together can be counted by the line feeds. -/
theorem count_joinLines {lines : List String} (whole : ∀ line ∈ lines, OneLine line) :
    (joinLines lines).toList.count '\n' = lines.length := by
  induction lines with
  | nil => rfl
  | cons line later ih =>
    obtain ⟨here, there⟩ := List.forall_mem_cons.mp whole
    have shape : (joinLines (line :: later)).toList = line.toList ++ '\n' :: (joinLines later).toList := by
      simp [joinLines]
    rw [shape, List.count_append, List.count_eq_zero.mpr here, List.count_cons_self, ih there,
      List.length_cons]
    omega

end Report

/-- No text of a diagram makes a row of its listing. Names, labels, events and diagnostics fit on one line
whatever the text is, and with any separator between the texts of a state the listing consists of the lines
for the totals, of one for each state, for each line of its text and for each of its transitions, and of one
for each diagnostic, with the headings of the parts that there are. Each of them ends in the one line feed
that it has. -/
theorem listing_rows_accounted {o : Options} {text : String} {a : Analysis} (read : analyze o text = .ok a) :
    (∀ s ∈ a.states, s.Unbroken) ∧ (∀ d ∈ a.diagnostics, OneLine d.message) ∧
    ∃ rows, Report.listing a = Report.joinLines rows ∧ (∀ row ∈ rows, OneLine row) ∧
      rows.length = 8 +
        (if a.states = [] then 0 else 5 + (a.states.map fun s =>
          1 + (Text.lines s.content.toList).length + s.transitions.length).sum) +
        (if a.diagnostics = [] then 0 else 2 + a.diagnostics.length) ∧
      (Report.listing a).toList.count '\n' = rows.length := by
  obtain ⟨unbroken, reported⟩ := unbroken_of_analyze read
  have whole := Report.oneLine_of_mem_listingLines unbroken reported
  exact ⟨unbroken, reported, _, rfl, whole, Report.length_listingLines a, Report.count_joinLines whole⟩

/-- A quoted name, a label, an event, a conflict, and a text that is joined by what looks like a row. -/
def lookalikeRows : String :=
  "state \"A B\" as N <<busy>>\nN : one\nN : two\nN --> C : go\nstate C as N"

theorem listing_rows_accounted_lookalike :
    ∃ a, analyze { separator := "\r\n     9 Forged\n" } lookalikeRows = .ok a ∧
      a.states.map (·.content) = ["one\r\n     9 Forged\ntwo", ""] ∧
      (∀ s ∈ a.states, s.Unbroken) ∧ (∀ d ∈ a.diagnostics, OneLine d.message) ∧
      (Report.listing a).toList.count '\n' = 22 := by
  have read : analyze { separator := "\r\n     9 Forged\n" } lookalikeRows = .ok
      { states := [⟨1, "A B", .custom "busy", .root, "one\r\n     9 Forged\ntwo", [⟨1, 2, some "go"⟩]⟩,
          ⟨2, "C", .plain, .root, "", []⟩]
        diagnostics := [⟨5, .aliasConflict "N" "A B" "C"⟩]
        lastId := 2 } := by decide +kernel
  obtain ⟨unbroken, reported, rows, -, -, length, counted⟩ := listing_rows_accounted read
  exact ⟨_, read, rfl, unbroken, reported, counted.trans (length.trans (by decide))⟩

end Statechart
