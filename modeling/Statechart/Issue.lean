import Statechart.State

/-! What can be wrong with a line of a diagram. -/
namespace Statechart

/-- A problem with one line. -/
inductive Issue where
  /-- A text is meant for a state that no line before has mentioned. -/
  | unresolvedReference (name : String)
  /-- No identifier is left above the last one that was handed out. -/
  | identifierOverflow (lastId : StateId)
  /-- A nickname that stands for one name is introduced for another. -/
  | aliasConflict (nickname existing requested : String)
deriving DecidableEq, Repr

/-- The wording of a problem. -/
def Issue.message : Issue → String
  | unresolvedReference name => "content refers to undeclared state `" ++ name ++ "`"
  | identifierOverflow lastId => "state identifiers exhausted after " ++ toString lastId
  | aliasConflict nickname existing requested =>
    "alias `" ++ nickname ++ "` is already bound to `" ++ existing ++ "`; ignoring `" ++
      requested ++ "`"

/-- A problem and the line it was found on; the first line has number one. -/
structure Diagnostic where
  /-- The number of the line. -/
  line : Nat
  /-- What is wrong with it. -/
  issue : Issue
deriving DecidableEq, Repr

/-- The wording of a problem with its place. -/
def Diagnostic.message (d : Diagnostic) : String :=
  "line " ++ toString d.line ++ ": " ++ d.issue.message

end Statechart
