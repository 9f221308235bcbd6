import Statechart.State

/-! Which composite states are open. The diagram itself surrounds them all and cannot be left, so
closing more scopes than were opened has no effect. -/
namespace Statechart

/-- The composite states that surround a line. -/
structure Nesting where
  /-- The open composite states, the innermost first. -/
  enclosing : List StateId
deriving DecidableEq, Repr

namespace Nesting

/-- Outside every composite state. -/
def outermost : Nesting := ⟨[]⟩

/-- Goes into a composite state. -/
def enter (n : Nesting) (id : StateId) : Nesting :=
  ⟨id :: n.enclosing⟩

/-- Goes out of the innermost composite state. -/
def leave (n : Nesting) : Nesting :=
  ⟨n.enclosing.tail⟩

/-- The innermost composite state. -/
def innermost? (n : Nesting) : Option StateId :=
  n.enclosing.head?

/-- The scopes that surround a line, from the innermost one out to the diagram. -/
def outward (n : Nesting) : List Scope :=
  n.enclosing.map Scope.state ++ [Scope.root]

/-- The innermost scope. -/
def scope (n : Nesting) : Scope :=
  match n.enclosing with
  | [] => .root
  | id :: _ => .state id

/-- The number of open composite states. -/
def depth (n : Nesting) : Nat :=
  n.enclosing.length

end Nesting

end Statechart
