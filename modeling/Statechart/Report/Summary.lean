import Statechart.Graph
import Statechart.Report.Listing

/-! The statistics of a graph as text, one number on each line. -/
namespace Statechart.Report

/-- The statistics of a graph. -/
def summary (stats : GraphStats) : String :=
  joinLines
    ["Total States:       " ++ toString stats.totalStates,
      "Total Transitions:  " ++ toString stats.totalTransitions,
      "Composite States:   " ++ toString stats.compositeStates,
      "Pseudostates:       " ++ toString stats.pseudostates,
      "Initial States:     " ++ toString stats.initialStates,
      "Max Depth:          " ++ toString stats.maxDepth,
      "Has Cycles:         " ++ toString stats.hasCycles]

end Statechart.Report
