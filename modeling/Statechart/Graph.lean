import Statechart.State

/-! States as a directed graph. Every state is a node, and every transition between known states is
an edge that its two end nodes list. The states need not be consistent: where several share an
identifier, the identifier means the last of them; transitions to or from unknown states are no edges;
owners may be unknown or form a circle. -/
namespace Statechart

/-- A state with the edges at it, the latest edge first. -/
structure Node where
  /-- The state. -/
  state : State
  /-- The transitions that leave it. -/
  outgoing : List Transition
  /-- The transitions that enter it. -/
  incoming : List Transition
deriving DecidableEq, Repr

/-- States and the transitions between them. -/
structure Graph where
  /-- One node for each state, in the order of the states. -/
  nodes : List Node
  /-- The number of edges. -/
  edgeCount : Nat
deriving DecidableEq, Repr

/-- What the size and the shape of a graph come to. -/
structure GraphStats where
  /-- The number of states. -/
  totalStates : Nat
  /-- The number of edges. -/
  totalTransitions : Nat
  /-- The number of states that own another. -/
  compositeStates : Nat
  /-- The number of control-flow nodes. -/
  pseudostates : Nat
  /-- The number of starts and ends. -/
  initialStates : Nat
  /-- The largest number of composite states around a state. -/
  maxDepth : Nat
  /-- Whether some sequence of edges returns to where it started. -/
  hasCycles : Bool
deriving DecidableEq, Repr

namespace Graph

/-- Changes the last node with this identifier, if there is one. -/
def modifyLast? (id : StateId) (change : Node → Node) : List Node → Option (List Node)
  | [] => none
  | node :: later =>
    match modifyLast? id change later with
    | some later => some (node :: later)
    | none => if node.state.id = id then some (change node :: later) else none

/-- Adds an edge for a transition, at the node it leaves and at the node it enters. Both must be
there. -/
def addEdge (g : Graph) (t : Transition) : Graph :=
  let leaving := modifyLast? t.source (fun node => { node with outgoing := t :: node.outgoing })
  let entering := modifyLast? t.target (fun node => { node with incoming := t :: node.incoming })
  match (leaving g.nodes).bind entering with
  | some nodes => { nodes, edgeCount := g.edgeCount + 1 }
  | none => g

/-- The graph of some states. Edges are added state by state, in the order in which the transitions
are listed. -/
def ofStates (states : List State) : Graph :=
  let nodes := states.map fun state => { state, outgoing := [], incoming := [] }
  (states.flatMap (·.transitions)).foldl addEdge { nodes, edgeCount := 0 }

/-- The states, in their order. -/
def states (g : Graph) : List State :=
  g.nodes.map (·.state)

/-- The node an identifier means. -/
def node? (g : Graph) (id : StateId) : Option Node :=
  g.nodes.reverse.find? fun node => node.state.id == id

/-- The state an identifier means. -/
def state? (g : Graph) (id : StateId) : Option State :=
  (g.node? id).map (·.state)

/-- The transitions that leave a state, the latest edge first. -/
def outgoing (g : Graph) (id : StateId) : List Transition :=
  ((g.node? id).map (·.outgoing)).getD []

/-- The transitions that enter a state, the latest edge first. -/
def incoming (g : Graph) (id : StateId) : List Transition :=
  ((g.node? id).map (·.incoming)).getD []

/-- The states that nothing enters. -/
def sources (g : Graph) : List State :=
  (g.nodes.filter (·.incoming.isEmpty)).map (·.state)

/-- The states that nothing leaves. -/
def sinks (g : Graph) : List State :=
  (g.nodes.filter (·.outgoing.isEmpty)).map (·.state)

/-- The states that belong to a scope. -/
def children (g : Graph) (scope : Scope) : List State :=
  g.states.filter fun s => s.owner == scope

/-- Follows owners out to the diagram and counts the steps. Answers nothing if an owner is unknown or
the steps run out. -/
def climb? (g : Graph) : Nat → State → Option Nat
  | steps, s =>
    match s.owner, steps with
    | .root, _ => some 0
    | .state _, 0 => none
    | .state owner, left + 1 => ((g.state? owner).bind (climb? g left)).map (· + 1)

/-- The number of composite states around a state. There is none for an unknown state, and none
where the owners lead to an unknown state or in a circle; as many steps as there are states are
enough to tell. -/
def depth? (g : Graph) (id : StateId) : Option Nat :=
  (g.state? id).bind (g.climb? g.nodes.length)

/-- The identifiers from which an edge leads to one of the same identifiers. -/
def prune (g : Graph) (ids : List StateId) : List StateId :=
  ids.filter fun id => (g.outgoing id).any fun t => ids.contains t.target

/-- Prunes again and again, until every identifier that is left has a successor among them. -/
def withSuccessors (g : Graph) (ids : List StateId) : List StateId :=
  if (g.prune ids).length < ids.length then withSuccessors g (g.prune ids) else ids
termination_by ids.length

/-- Whether some sequence of edges returns to where it started. That is so exactly if some states
remain once those without a successor are dropped for good. -/
def hasCycles (g : Graph) : Bool :=
  !(g.withSuccessors (g.states.map (·.id))).isEmpty

/-- What the size and the shape of a graph come to. -/
def stats (g : Graph) : GraphStats where
  totalStates := g.nodes.length
  totalTransitions := g.edgeCount
  compositeStates := g.states.countP fun s => !(g.children (.state s.id)).isEmpty
  pseudostates := g.states.countP (·.kind.isPseudostate)
  initialStates := g.states.countP (·.kind == .initial)
  maxDepth := ((g.states.filterMap fun s => g.depth? s.id).max?).getD 0
  hasCycles := g.hasCycles

end Graph

end Statechart
