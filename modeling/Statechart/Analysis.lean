import Statechart.Draft
import Statechart.Line
import Statechart.Text.Lines

/-! Reading a diagram: one pass over its lines, each of which may add to the states found so far,
open or close a scope, or be reported. Declarations and transitions create the states they name; a
text is only ever attached to a state that exists. -/
namespace Statechart

/-- What a diagram says. -/
structure Analysis where
  /-- The states in order of creation. -/
  states : List State
  /-- The problems that were reported and passed over, in order of their lines. -/
  diagnostics : List Diagnostic
  /-- The identifier handed out last; the starting number if there is none. -/
  lastId : StateId
deriving DecidableEq, Repr

namespace Analysis

/-- The state with this identifier. -/
def state? (a : Analysis) (id : StateId) : Option State :=
  a.states.find? fun s => s.id == id

/-- The first state with this name. -/
def find? (a : Analysis) (name : String) : Option State :=
  a.states.find? fun s => s.name == name

/-- The states that belong to a scope. -/
def children (a : Analysis) (scope : Scope) : List State :=
  a.states.filter fun s => s.owner == scope

/-- The number of transitions. -/
def transitionCount (a : Analysis) : Nat :=
  (a.states.flatMap (·.transitions)).length

end Analysis

/-- A diagram while it is being read, with the problems reported so far. -/
structure Reading where
  /-- What has been understood. -/
  draft : Draft
  /-- What has been reported. -/
  diagnostics : List Diagnostic
deriving DecidableEq, Repr

namespace Reading

/-- Nothing has been read. -/
def start (startingId : StateId) : Reading :=
  { draft := .start startingId, diagnostics := [] }

/-- Adds a problem to the report. -/
def report (r : Reading) (line : Nat) (issue : Issue) : Reading :=
  { r with diagnostics := r.diagnostics ++ [{ line, issue }] }

/-- The state a name refers to, created if it does not exist. -/
def obtain (r : Reading) (o : Options) (line : Nat) (raw : String) (role : Role)
    (kind : Option Kind) : Except Diagnostic (StateId × Reading) :=
  match r.draft.obtain o.identity raw role kind with
  | .ok (id, draft) => .ok (id, { r with draft })
  | .error issue => .error { line, issue }

/-- Introduces a nickname. A conflict is reported, and the answer says whether there was none. -/
def introduce (r : Reading) (line : Nat) (fullName nickname : String) : Bool × Reading :=
  match r.draft.nicknames.introduce fullName nickname with
  | .ok nicknames => (true, { r with draft := { r.draft with nicknames } })
  | .error issue => (false, r.report line issue)

/-- Attaches a text to a state. -/
def annotate (r : Reading) (o : Options) (id : StateId) (text : String) : Reading :=
  let registry := r.draft.registry.modify id fun s => s.annotate text o.separator
  { r with draft := { r.draft with registry } }

/-- Lists a transition under the state it leaves. -/
def addTransition (r : Reading) (t : Transition) : Reading :=
  let registry := (r.draft.registry.addTransition? t).getD r.draft.registry
  { r with draft := { r.draft with registry } }

/-- Goes into a composite state. -/
def enter (r : Reading) (id : StateId) : Reading :=
  { r with draft := { r.draft with nesting := r.draft.nesting.enter id } }

/-- Goes out of the innermost composite state. -/
def leave (r : Reading) : Reading :=
  { r with draft := { r.draft with nesting := r.draft.nesting.leave } }

/-- Reads one line. A composite state is entered even if its nickname is in conflict, so that its
closing brace finds it open; any other declaration with such a nickname is passed over. -/
def step (o : Options) (r : Reading) (number : Nat) : Line → Except Diagnostic Reading
  | .composite name nickname => do
    let r :=
      match nickname with
      | some nickname => (r.introduce number name nickname).2
      | none => r
    let (id, r) ← r.obtain o number name .declaration none
    return r.enter id
  | .close => return r.leave
  | .aliased name nickname stereotype => do
    match r.introduce number name nickname with
    | (true, r) =>
      let (_, r) ← r.obtain o number name .declaration (stereotype.map Kind.ofStereotype)
      return r
    | (false, r) => return r
  | .stereotyped name stereotype => do
    let (_, r) ← r.obtain o number name .declaration (some (Kind.ofStereotype stereotype))
    return r
  | .simple name content => do
    let (id, r) ← r.obtain o number name .declaration none
    match content with
    | some text => return r.annotate o id text
    | none => return r
  | .transition source target event => do
    let (source, r) ← r.obtain o number source .source none
    let (target, r) ← r.obtain o number target .target none
    return r.addTransition { source, target, event }
  | .content name text =>
    match (r.draft.resolve o.identity name .declaration).id? with
    | some id => return r.annotate o id text
    | none =>
      match o.onUnresolved with
      | .abort => throw { line := number, issue := .unresolvedReference name }
      | .skip => return r.report number (.unresolvedReference name)
  | .ignored => return r

/-- Reads lines that are paired with their numbers. -/
def run (o : Options) (r : Reading) (lines : List (Line × Nat)) : Except Diagnostic Reading :=
  lines.foldlM (fun r (line, number) => r.step o number line) r

/-- What has been understood, as a result. -/
def toAnalysis (r : Reading) : Analysis :=
  { states := r.draft.registry.states
    diagnostics := r.diagnostics
    lastId := r.draft.registry.lastId }

end Reading

/-- The lines of a diagram, with their numbers from one on. -/
def numberedLines (text : String) : List (Line × Nat) :=
  ((Text.lines text.toList).map fun line => Line.classify (String.ofList line)).zipIdx 1

/-- Reads a diagram. -/
def analyze (o : Options) (text : String) : Except Diagnostic Analysis := do
  let r ← Reading.run o (Reading.start o.startingId.toNat) (numberedLines text)
  return r.toAnalysis

/-- The states of a diagram that follows others: their numbers are above the given one, and all else
is as it is by default. -/
def statesAbove (last : UInt64) (text : String) : Except Diagnostic (List State) := do
  let a ← analyze { startingId := last } text
  return a.states

end Statechart
