import Statechart.Text.Blank

/-! What a diagram consists of: states, the scopes that own them, and the transitions between them. -/
namespace Statechart

/-- States are numbered; the numbers are handed out in order of creation. -/
abbrev StateId := Nat

/-- The largest number a state can have: identifiers are kept in 64 bits by those who store them. -/
def StateId.max : StateId := UInt64.size - 1

/-- The owner of a state: a composite state, or nothing but the diagram itself. -/
inductive Scope where
  /-- The diagram. -/
  | root
  /-- The composite state with this identifier. -/
  | state (id : StateId)
deriving DecidableEq, Repr, Inhabited

namespace Scope

/-- The composite state that a scope stands for. -/
def id? : Scope → Option StateId
  | root => none
  | state id => some id

/-- A scope in a report: `root`, or the number of the composite state. -/
def text : Scope → String
  | root => "root"
  | state id => toString id

end Scope

/-- What role a state plays in the diagram. -/
inductive Kind where
  /-- An ordinary state. -/
  | plain
  /-- The start or the end of a scope, written `[*]`. -/
  | initial
  /-- The memory of a scope, written `[H]` or `[H*]`. -/
  | history
  /-- Splits control into parallel branches. -/
  | fork
  /-- Brings parallel branches together. -/
  | join
  /-- Branches on a condition. -/
  | choice
  /-- An explicitly declared start. -/
  | start
  /-- An explicitly declared end. -/
  | finish
  /-- Any other stereotype, kept as it was written. -/
  | custom (label : String)
deriving DecidableEq, Repr, Inhabited

namespace Kind

/-- The kind that a stereotype text declares. The five words are recognised in any mixture of upper
and lower case ASCII letters; every other text is a label of its own. -/
def ofStereotype (text : String) : Kind :=
  let label := Text.trim text.toList
  match String.ofList (label.map Char.toLower) with
  | "fork" => fork
  | "join" => join
  | "choice" => choice
  | "start" => start
  | "end" => finish
  | _ => custom (String.ofList label)

/-- Control-flow nodes, as opposed to conditions that last. -/
def isPseudostate : Kind → Bool
  | plain | custom _ => false
  | _ => true

/-- The word for a kind; a custom kind is called by its label. -/
def name : Kind → String
  | plain => "Plain"
  | initial => "Initial"
  | history => "History"
  | fork => "Fork"
  | join => "Join"
  | choice => "Choice"
  | start => "Start"
  | finish => "End"
  | custom label => label

/-- A kind in a report: a custom label stands between the marks it was declared with. -/
def text : Kind → String
  | custom label => "<<" ++ label ++ ">>"
  | kind => kind.name

end Kind

/-- A transition, listed under the state it leaves. -/
structure Transition where
  /-- The state it leaves. -/
  source : StateId
  /-- The state it enters. -/
  target : StateId
  /-- The event that triggers it. -/
  event : Option String
deriving DecidableEq, Repr, Inhabited

namespace Transition

/-- The event as a label; a transition without an event has the empty label. -/
def label (t : Transition) : String :=
  t.event.getD ""

/-- A transition from a state to itself. -/
def isLoop (t : Transition) : Bool :=
  t.source == t.target

end Transition

/-- A state of a diagram. -/
structure State where
  /-- Its number. -/
  id : StateId
  /-- The name it is displayed under, which other states may share. -/
  name : String
  /-- Its role. -/
  kind : Kind
  /-- The scope it belongs to. -/
  owner : Scope
  /-- The annotations attached to it so far. -/
  content : String
  /-- The transitions leaving it, in the order in which they were written. -/
  transitions : List Transition
deriving DecidableEq, Repr, Inhabited

namespace State

/-- A state without annotations and transitions. -/
def blank (id : StateId) (name : String) (kind : Kind) (owner : Scope) : State :=
  { id, name, kind, owner, content := "", transitions := [] }

/-- Attaches an annotation. The separator stands between annotations, so it is left out as long as
there is no content before it. -/
def annotate (s : State) (text separator : String) : State :=
  { s with content := if s.content = "" then text else s.content ++ separator ++ text }

/-- Adds a transition after the ones already listed. -/
def addTransition (s : State) (t : Transition) : State :=
  { s with transitions := s.transitions ++ [t] }

/-- Name and number, with the kind between them unless the state is a plain one. -/
def short (s : State) : String :=
  match s.kind with
  | .plain => s!"{s.name} ({s.id})"
  | kind => s!"{s.name} [{kind.text}] ({s.id})"

end State

end Statechart
