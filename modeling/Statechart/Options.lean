/-! The choices a user has when a diagram is read. -/
namespace Statechart

/-- When two plain names denote the same state. -/
inductive Identity where
  /-- Everywhere in the diagram. -/
  | global
  /-- Only along the scopes that enclose a line, of which the innermost one with such a name
  counts. -/
  | lexical
deriving DecidableEq, Repr, Inhabited

/-- The words a user chooses the rule with. -/
def Identity.words : List (String × Identity) :=
  [("global", global), ("scoped", lexical)]

/-- What becomes of a text for an unknown state. -/
inductive OnUnresolved where
  /-- Reading ends with an error. -/
  | abort
  /-- The line is reported and reading goes on. -/
  | skip
deriving DecidableEq, Repr, Inhabited

/-- The words a user chooses that with. -/
def OnUnresolved.words : List (String × OnUnresolved) :=
  [("abort", abort), ("skip", skip)]

/-- How a diagram is read. -/
structure Options where
  /-- Identifiers are handed out above this number. -/
  startingId : UInt64 := 0
  /-- When plain names are the same. -/
  identity : Identity := .global
  /-- What becomes of texts for unknown states. -/
  onUnresolved : OnUnresolved := .abort
  /-- What stands between two texts for the same state. -/
  separator : String := "\n"
deriving DecidableEq, Repr, Inhabited

end Statechart
