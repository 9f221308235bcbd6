import Statechart.Analysis
import Statechart.Json.Printer
import Statechart.Json.Record

/-! An analysis as JSON text: its diagnostics, its states and its totals, with a line feed after the
value. -/
namespace Statechart.Report

/-- An analysis as a JSON value. -/
def toJson (a : Analysis) : Json :=
  .object
    [("diagnostics", .array (a.diagnostics.map Diagnostic.toJson)),
      ("states", .array (a.states.map State.toJson)),
      ("summary", .object
        [("last_id", .natural a.lastId), ("total_states", .natural a.states.length),
          ("total_transitions", .natural a.transitionCount)])]

/-- An analysis as JSON text. -/
def structured (a : Analysis) : String :=
  (toJson a).pretty ++ "\n"

end Statechart.Report
