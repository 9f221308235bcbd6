import Statechart.Issue
import Statechart.Name

/-! The states of a diagram as they are found. They are kept in order of creation and numbered
without a gap from one above a given number, so the place of a state follows from its identifier. -/
namespace Statechart

/-- The states created so far. -/
structure Registry where
  /-- The number below the first identifier. -/
  startingId : StateId
  /-- The states in order of creation. -/
  states : List State
deriving DecidableEq, Repr

namespace Registry

/-- No states yet. -/
def empty (startingId : StateId) : Registry :=
  { startingId, states := [] }

/-- The identifier handed out last; the starting number if there is none. -/
def lastId (r : Registry) : StateId :=
  r.startingId + r.states.length

/-- The place at which a state with this identifier would be. -/
def position? (r : Registry) (id : StateId) : Option Nat :=
  if r.startingId < id then some (id - r.startingId - 1) else none

/-- The state with this identifier. -/
def get? (r : Registry) (id : StateId) : Option State :=
  (r.position? id).bind fun position => r.states[position]?

/-- Changes the state with this identifier, if there is one. -/
def modify (r : Registry) (id : StateId) (change : State → State) : Registry :=
  match r.position? id with
  | none => r
  | some position => { r with states := r.states.modify position change }

/-- Adds a state and answers its identifier. -/
def create (r : Registry) (name : String) (kind : Kind) (owner : Scope) :
    Except Issue (StateId × Registry) :=
  let id := r.lastId + 1
  if id ≤ StateId.max then
    .ok (id, { r with states := r.states ++ [State.blank id name kind owner] })
  else .error (.identifierOverflow r.lastId)

/-- Lists a transition under the state it leaves, if that state exists. -/
def addTransition? (r : Registry) (t : Transition) : Option Registry :=
  (r.get? t.source).map fun _ => r.modify t.source (·.addTransition t)

/-- The first state with this name, whatever scope it belongs to. -/
def findByName? (r : Registry) (name : String) : Option State :=
  r.states.find? fun s => s.name == name

/-- The first state with this name in a scope. -/
def findInScope? (r : Registry) (name : String) (scope : Scope) : Option State :=
  r.states.find? fun s => s.name == name && s.owner == scope

/-- The history with this name in a scope. -/
def findHistory? (r : Registry) (name : String) (scope : Scope) : Option State :=
  r.states.find? fun s => s.kind == .history && s.name == name && s.owner == scope

/-- The starts and ends of a scope, in order of creation. -/
def initialsIn (r : Registry) (scope : Scope) : List State :=
  r.states.filter fun s => s.kind == .initial && s.name == Name.initialMark && s.owner == scope

end Registry

end Statechart
