import Statechart.Issue
import Statechart.Text.Location
import Statechart.Text.Quoted

/-! Why a request for an analysis can fail. -/
namespace Statechart

/-- The reason of a failure. -/
inductive Failure where
  /-- A line cannot be read under the options in force. -/
  | analysis (diagnostic : Diagnostic)
  /-- The diagram could not be obtained. -/
  | input (reason : String)
  /-- The configuration could not be obtained. -/
  | config (reason : String)
  /-- The configuration in a file is no configuration. -/
  | configSyntax (file reason : String)
  /-- Anything else. -/
  | other (text : String)
deriving DecidableEq, Repr

namespace Failure

/-- The wording of a failure. -/
def message : Failure → String
  | analysis diagnostic => diagnostic.message
  | input reason => "IO error: " ++ reason
  | config reason => "Configuration error: " ++ reason
  | configSyntax file reason =>
    "Configuration parsing error in " ++ Text.quoted file ++ ": " ++ reason
  | other text => text

/-- The problem with a line that a failure goes back to. -/
def issue? : Failure → Option Issue
  | analysis diagnostic => some diagnostic.issue
  | _ => none

/-- A failure of something that was to be JSON. If the reason says where, the place is written in its
usual form. -/
def ofJsonError (reason : String) : Failure :=
  other ("JSON error: " ++ String.ofList (Text.Located.ofText reason.toList).text)

/-- A failure of a configuration that is not known to come from a file. Its wording ends the line. -/
def ofConfigError (reason : String) : Failure :=
  configSyntax "unknown" (reason ++ "\n")

end Failure

end Statechart
