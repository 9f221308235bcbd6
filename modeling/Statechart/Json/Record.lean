import Statechart.Issue
import Statechart.Json.Value

/-! States and diagnostics as JSON values, and back. A kind or a scope is one of several variants: a
variant that carries nothing is its word, and one that carries a value is an object with the word as
its only name. Members are written in alphabetical order. When a value is read, members with other
names do not count, and a record may also be given as an array of its fields in their order. -/
namespace Statechart

namespace Json

/-- The word of a variant and what it carries. -/
def variant? : Json → Option (String × Json)
  | string word => some (word, null)
  | object [(word, value)] => some (word, value)
  | _ => none

/-- The fields of a record. A field that an object lacks has no value. -/
def fields? (names : List String) : Json → Option (List (Option Json))
  | object members => some (names.map fun name => (object members).get? name)
  | array items => if items.length = names.length then some (items.map some) else none
  | _ => none

/-- A string or nothing. -/
def ofOption : Option String → Json
  | none => null
  | some value => string value

end Json

namespace Kind

/-- A kind as JSON. -/
def toJson : Kind → Json
  | plain => .string "plain"
  | initial => .string "initial"
  | history => .string "history"
  | fork => .string "fork"
  | join => .string "join"
  | choice => .string "choice"
  | start => .string "start"
  | finish => .string "end"
  | custom label => .object [("custom", .string label)]

/-- The kind that a word and a value stand for. -/
def ofVariant? : String × Json → Option Kind
  | ("plain", .null) => some plain
  | ("initial", .null) => some initial
  | ("history", .null) => some history
  | ("fork", .null) => some fork
  | ("join", .null) => some join
  | ("choice", .null) => some choice
  | ("start", .null) => some start
  | ("end", .null) => some finish
  | ("custom", .string label) => some (custom label)
  | _ => none

/-- A kind from JSON. -/
def ofJson? (value : Json) : Option Kind :=
  value.variant?.bind ofVariant?

end Kind

namespace Scope

/-- A scope as JSON. -/
def toJson : Scope → Json
  | root => .string "root"
  | state id => .object [("state", .natural id)]

/-- The scope that a word and a value stand for. -/
def ofVariant? : String × Json → Option Scope
  | ("root", .null) => some root
  | ("state", id) => id.word?.map state
  | _ => none

/-- A scope from JSON. -/
def ofJson? (value : Json) : Option Scope :=
  value.variant?.bind ofVariant?

end Scope

namespace Transition

/-- A transition as JSON. -/
def toJson (t : Transition) : Json :=
  .object
    [("event", .ofOption t.event), ("source", .natural t.source), ("target", .natural t.target)]

/-- An event: a string, or nothing. -/
def eventOfJson? : Option Json → Option (Option String)
  | none => some none
  | some .null => some none
  | some (.string event) => some (some event)
  | some _ => none

/-- A transition from JSON. -/
def ofJson? (value : Json) : Option Transition :=
  match value.fields? ["source", "target", "event"] with
  | some [some source, some target, event] => do
    let source ← source.word?
    let target ← target.word?
    let event ← eventOfJson? event
    return { source, target, event }
  | _ => none

end Transition

namespace State

/-- A state as JSON. -/
def toJson (s : State) : Json :=
  .object
    [("content", .string s.content), ("id", .natural s.id), ("kind", s.kind.toJson),
      ("name", .string s.name), ("owner", s.owner.toJson),
      ("transitions", .array (s.transitions.map Transition.toJson))]

/-- A state from JSON. -/
def ofJson? (value : Json) : Option State :=
  match value.fields? ["id", "name", "kind", "owner", "content", "transitions"] with
  | some [some id, some name, some kind, some owner, some content, some transitions] => do
    let id ← id.word?
    let name ← name.string?
    let kind ← Kind.ofJson? kind
    let owner ← Scope.ofJson? owner
    let content ← content.string?
    let transitions ← transitions.list? Transition.ofJson?
    return { id, name, kind, owner, content, transitions }
  | _ => none

end State

namespace Issue

/-- The members that describe a problem; the line it was found on may be put among them. -/
def members (line : List (String × Json)) : Issue → List (String × Json)
  | unresolvedReference name =>
    ("kind", .string "unresolved_reference") :: line ++ [("name", .string name)]
  | identifierOverflow lastId =>
    ("kind", .string "identifier_overflow") :: ("last_id", .natural lastId) :: line
  | aliasConflict nickname existing requested =>
    ("alias", .string nickname) :: ("existing", .string existing) ::
      ("kind", .string "alias_conflict") :: line ++ [("requested", .string requested)]

/-- A problem as JSON. -/
def toJson (issue : Issue) : Json :=
  .object (issue.members [])

/-- A problem from JSON. -/
def ofJson? (value : Json) : Option Issue := do
  let text (name : String) := (value.get? name).bind Json.string?
  match ← text "kind" with
  | "unresolved_reference" => return unresolvedReference (← text "name")
  | "identifier_overflow" => return identifierOverflow (← (← value.get? "last_id").word?)
  | "alias_conflict" =>
    return aliasConflict (← text "alias") (← text "existing") (← text "requested")
  | _ => none

end Issue

namespace Diagnostic

/-- A diagnostic as JSON: the line stands among the members of the problem. -/
def toJson (d : Diagnostic) : Json :=
  .object (d.issue.members [("line", .natural d.line)])

/-- A diagnostic from JSON. -/
def ofJson? (value : Json) : Option Diagnostic := do
  let line ← (← value.get? "line").word?
  let issue ← Issue.ofJson? value
  return { line, issue }

end Diagnostic

end Statechart
