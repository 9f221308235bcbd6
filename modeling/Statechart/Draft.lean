import Statechart.Nesting
import Statechart.Nicknames
import Statechart.Options
import Statechart.Registry

/-! A diagram while it is being read, and what a written name refers to at that point. A name either
refers to a state that exists or says exactly which state would have to be created for it. -/
namespace Statechart

/-- A diagram while it is being read. -/
structure Draft where
  /-- The nicknames in force. -/
  nicknames : Nicknames
  /-- The composite states that are open. -/
  nesting : Nesting
  /-- The states found so far. -/
  registry : Registry
deriving DecidableEq, Repr

/-- Where a name is used. -/
inductive Role where
  /-- Before an arrow. -/
  | source
  /-- After an arrow. -/
  | target
  /-- In a declaration or before a text. -/
  | declaration
deriving DecidableEq, Repr

/-- The state that a name asks for if it refers to none. -/
structure Placement where
  /-- The name of the new state. -/
  name : String
  /-- Its kind, unless a declaration says otherwise. -/
  kind : Kind
  /-- Its scope. -/
  owner : Scope
deriving DecidableEq, Repr

/-- What a name refers to. -/
inductive Resolution where
  /-- An existing state. -/
  | found (id : StateId)
  /-- No state yet. -/
  | missing (placement : Placement)
deriving DecidableEq, Repr

namespace Resolution

/-- The state that was found. -/
def id? : Resolution → Option StateId
  | found id => some id
  | missing _ => none

/-- Refers to the state that a search found, or else to one that is to be created. -/
def ofSearch (hit : Option State) (name : String) (kind : Kind) (owner : Scope) : Resolution :=
  match hit with
  | some s => found s.id
  | none => missing { name, kind, owner }

end Resolution

namespace Draft

/-- Nothing has been read. -/
def start (startingId : StateId) : Draft :=
  { nicknames := .empty, nesting := .outermost, registry := .empty startingId }

/-- The state with a plain name. -/
def findPlain? (d : Draft) (identity : Identity) (name : String) : Option State :=
  match identity with
  | .global => d.registry.findByName? name
  | .lexical => d.nesting.outward.findSome? fun scope => d.registry.findInScope? name scope

/-- The start or end that `[*]` refers to in the innermost scope. The first one created is the start
and serves where something leaves it or is said about it; the second one is the end and serves where
something enters it. -/
def resolveInitial (d : Draft) (role : Role) : Resolution :=
  let initials := d.registry.initialsIn d.nesting.scope
  let hit :=
    match role with
    | .source | .declaration => initials[0]?
    | .target => initials[1]?
  .ofSearch hit Name.initialMark .initial d.nesting.scope

/-- The history that a marker refers to. With a known owner it belongs to the owner, wherever the
name is used; without an owner it belongs to the innermost scope; and with an unknown owner the whole
of what was written names a history of the innermost scope. -/
def resolveHistory (d : Draft) (identity : Identity) (written : String) (owner : Option String)
    (marker : String) : Resolution :=
  let inScope (name : String) (scope : Scope) :=
    Resolution.ofSearch (d.registry.findHistory? name scope) name .history scope
  match owner with
  | none => inScope marker d.nesting.scope
  | some owner =>
    match d.findPlain? identity (d.nicknames.fullName owner) with
    | some s => inScope marker (.state s.id)
    | none => inScope written d.nesting.scope

/-- What a name refers to. A nickname is replaced by its full name first. -/
def resolve (d : Draft) (identity : Identity) (raw : String) (role : Role) : Resolution :=
  let name := d.nicknames.fullName (String.ofList (Text.trim raw.toList))
  match Name.ofString name with
  | .initial => d.resolveInitial role
  | .history owner marker => d.resolveHistory identity name owner marker
  | .plain plain => .ofSearch (d.findPlain? identity plain) plain .plain d.nesting.scope

/-- The state a name refers to, created if it does not exist. A kind given by a declaration counts
for a new state only: existing states keep theirs. -/
def obtain (d : Draft) (identity : Identity) (raw : String) (role : Role) (kind : Option Kind) :
    Except Issue (StateId × Draft) :=
  match d.resolve identity raw role with
  | .found id => .ok (id, d)
  | .missing place =>
    match d.registry.create place.name (kind.getD place.kind) place.owner with
    | .ok (id, registry) => .ok (id, { d with registry })
    | .error issue => .error issue

end Draft

end Statechart
