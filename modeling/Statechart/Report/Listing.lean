import Statechart.Analysis

/-! An analysis as a listing: totals, a table of the states with their texts and transitions, and the
diagnostics. Columns are filled up with spaces to a width that counts characters; a longer entry is
not cut but moves what follows it. -/
namespace Statechart.Report

/-- The text after as many spaces as are missing to a width. -/
def alignRight (width : Nat) (text : String) : String :=
  String.ofList (List.replicate (width - text.length) ' ') ++ text

/-- The text before as many spaces as are missing to a width. -/
def alignLeft (width : Nat) (text : String) : String :=
  text ++ String.ofList (List.replicate (width - text.length) ' ')

/-- A line across the page. -/
def rule (c : Char) : String :=
  String.ofList (List.replicate 80 c)

/-- A row of the table. -/
def row (id name kind owner : String) : String :=
  alignRight 6 id ++ " " ++ alignLeft 40 name ++ " " ++ alignLeft 16 kind ++ " " ++
    alignRight 8 owner

/-- How a transition's target is called. -/
def targetText (a : Analysis) (id : StateId) : String :=
  match a.state? id with
  | some target => target.short
  | none => "? (" ++ toString id ++ ")"

/-- The lines for a state: its row, a line for each line of its content, and a line for each of its
transitions. -/
def stateLines (a : Analysis) (s : State) : List String :=
  let contentLines := (Text.lines s.content.toList).map fun line =>
    alignRight 8 "|" ++ " " ++ String.ofList line
  let transitionLines := s.transitions.map fun t =>
    alignRight 8 "" ++ " " ++ s.name ++ " --(" ++ t.label ++ ")--> " ++ targetText a t.target
  row (toString s.id) s.name s.kind.text s.owner.text :: contentLines ++ transitionLines

/-- The table of the states, if there are any. -/
def stateTable (a : Analysis) : List String :=
  if a.states.isEmpty then []
  else
    ["States:", rule '-', row "Id" "Name" "Kind" "Owner", rule '-'] ++
      a.states.flatMap (stateLines a) ++ [""]

/-- The list of the diagnostics, if there are any. -/
def diagnosticList (a : Analysis) : List String :=
  if a.diagnostics.isEmpty then []
  else "Diagnostics:" :: a.diagnostics.map (fun d => "  " ++ d.message) ++ [""]

/-- The lines of a listing. -/
def listingLines (a : Analysis) : List String :=
  ["State Graph - Analysis Results", rule '=', "", "Summary:",
    "  Total States:       " ++ toString a.states.length,
    "  Total Transitions:  " ++ toString a.transitionCount,
    "  Diagnostics:        " ++ toString a.diagnostics.length, ""] ++
    stateTable a ++ diagnosticList a

/-- Lines as a text, each with its line feed. -/
def joinLines (lines : List String) : String :=
  String.join (lines.map (· ++ "\n"))

/-- An analysis as a listing. -/
def listing (a : Analysis) : String :=
  joinLines (listingLines a)

end Statechart.Report
