import Mathlib.Data.List.Basic
import Std.Data.HashMap.Lemmas
import Statechart.Proofs.GraphView
import Statechart.Proofs.Moves

/-! The registry kept with an index. The place of a state follows from its number, so the registry finds states
without searching. An index says the same: it is a table from numbers to places that is filled as states are
created, beside the states and the number handed out last. Asked for the same, the two give the same answers, and
the index never leads beyond the states. So they also agree with whoever looks for a number among the states, from
the front or from the back. -/
namespace Statechart

namespace Registry

/-- What the registry can be asked for. -/
inductive Call where
  /-- A new state. -/
  | create (name : String) (kind : Kind) (owner : Scope)
  /-- A transition is to be listed. -/
  | connect (t : Transition)
  /-- A text is to be attached to a state. -/
  | annotate (id : StateId) (text separator : String)
deriving DecidableEq, Repr

/-- What it answers. -/
inductive Answer where
  /-- The number of the new state, or why there is none. -/
  | created (result : Except Issue StateId)
  /-- Whether the transition is listed. -/
  | connected (listed : Bool)
  /-- Whether there is such a state. -/
  | annotated (known : Bool)
deriving DecidableEq, Repr

/-- Does what the registry is asked for. -/
def serve (r : Registry) : Call → Answer × Registry
  | .create name kind owner =>
    match r.create name kind owner with
    | .ok (id, next) => (.created (.ok id), next)
    | .error issue => (.created (.error issue), r)
  | .connect t =>
    match r.addTransition? t with
    | some next => (.connected true, next)
    | none => (.connected false, r)
  | .annotate id text separator =>
    (.annotated (r.get? id).isSome, r.modify id (·.annotate text separator))

/-- The registry after some calls. -/
def after (r : Registry) (calls : List Call) : Registry :=
  calls.foldl (fun r call => (r.serve call).2) r

end Registry

/-- States with an index. -/
structure IndexedRegistry where
  /-- The states in order of creation. -/
  states : Array State
  /-- The places of the states, by their numbers. -/
  index : Std.HashMap StateId Nat
  /-- The number handed out last; the starting number if there is none. -/
  lastId : StateId

namespace IndexedRegistry

/-- No states yet. -/
def empty (startingId : StateId) : IndexedRegistry :=
  { states := #[], index := ∅, lastId := startingId }

/-- The state with this number. There is no answer at all if the index leads beyond the states. -/
def get? (x : IndexedRegistry) (id : StateId) : Option (Option State) :=
  match x.index[id]? with
  | none => some none
  | some place => x.states[place]?.map some

/-- Changes the state with this number and answers whether there is one, with the same reservation. -/
def modify? (x : IndexedRegistry) (id : StateId) (change : State → State) :
    Option (Bool × IndexedRegistry) :=
  match x.index[id]? with
  | none => some (false, x)
  | some place =>
    x.states[place]?.map fun _ => (true, { x with states := x.states.modify place change })

/-- Adds a state, unless there is no number left for it. -/
def create (x : IndexedRegistry) (name : String) (kind : Kind) (owner : Scope) :
    Except Issue StateId × IndexedRegistry :=
  let id := x.lastId + 1
  if id ≤ StateId.max then
    (.ok id,
      { states := x.states.push (State.blank id name kind owner)
        index := x.index.insert id x.states.size
        lastId := id })
  else (.error (.identifierOverflow x.lastId), x)

/-- Does what the registry is asked for. -/
def serve? (x : IndexedRegistry) : Registry.Call → Option (Registry.Answer × IndexedRegistry)
  | .create name kind owner =>
    let (result, next) := x.create name kind owner
    some (.created result, next)
  | .connect t =>
    (x.modify? t.source (·.addTransition t)).map fun (listed, next) => (.connected listed, next)
  | .annotate id text separator =>
    (x.modify? id (·.annotate text separator)).map fun (known, next) => (.annotated known, next)

/-- The registry after some calls. -/
def after? (x : IndexedRegistry) (calls : List Registry.Call) : Option IndexedRegistry :=
  calls.foldlM (fun x call => (x.serve? call).map (·.2)) x

end IndexedRegistry

/-- In a list without two states of one number, a search for a number finds the state that bears it. -/
theorem find?_id_eq_some_iff {states : List State} {id : StateId} {s : State}
    (distinct : ∀ s ∈ states, ∀ t ∈ states, s.id = t.id → s = t) :
    (states.find? fun s => s.id == id) = some s ↔ s ∈ states ∧ s.id = id := by
  constructor
  · intro found
    exact ⟨List.mem_of_find?_eq_some found, by simpa using List.find?_some found⟩
  · rintro ⟨member, rfl⟩
    refine find?_eq_some_of_unique member (by simp) ?_
    intro other there same
    exact distinct other there s member (by simpa using same)

namespace Registry

variable {r : Registry} {id : StateId}

/-- Looking a number up is as good as searching for it. -/
theorem Numbered.get?_eq_find? (numbered : r.Numbered) (id : StateId) :
    r.get? id = r.states.find? fun s => s.id == id := by
  ext s
  rw [numbered.get?_eq_some_iff, find?_id_eq_some_iff fun _ here _ there => numbered.eq_of_id_eq here there]

/-- And it does not matter from which end. -/
theorem Numbered.get?_eq_find?_reverse (numbered : r.Numbered) (id : StateId) :
    r.get? id = r.states.reverse.find? fun s => s.id == id := by
  ext s
  rw [numbered.get?_eq_some_iff, find?_id_eq_some_iff, List.mem_reverse]
  intro s here t there
  exact numbered.eq_of_id_eq (List.mem_reverse.mp here) (List.mem_reverse.mp there)

theorem Numbered.modify_eq_map (numbered : r.Numbered) (id : StateId) (change : State → State) :
    r.modify id change = { r with states := r.states.map fun s => if s.id = id then change s else s } := by
  rw [← numbered.modify_states]
  rcases r.modify_eq id change with same | ⟨position, same⟩ <;> rw [same]

theorem Numbered.isSome_get?_iff_known (numbered : r.Numbered) : (r.get? id).isSome ↔ r.Known id := by
  rw [Option.isSome_iff_exists]
  simp only [numbered.get?_eq_some_iff]
  rfl

theorem serve_create (r : Registry) (name : String) (kind : Kind) (owner : Scope) :
    r.serve (.create name kind owner) =
      if r.lastId < StateId.max then (.created (.ok (r.lastId + 1)), r.push name kind owner)
      else (.created (.error (.identifierOverflow r.lastId)), r) := by
  unfold serve
  simp only [create_eq]
  by_cases left : r.lastId < StateId.max
  · simp only [if_pos left]
  · simp only [if_neg left]

theorem serve_create_of_full (full : StateId.max ≤ r.lastId) (name : String) (kind : Kind) (owner : Scope) :
    r.serve (.create name kind owner) = (.created (.error (.identifierOverflow r.lastId)), r) := by
  rw [serve_create, if_neg (Nat.not_lt.mpr full)]

/-- Numbers run out at the largest one, and nowhere else. -/
theorem full_of_failed {name : String} {kind : Kind} {owner : Scope} {issue : Issue}
    (failed : (r.serve (.create name kind owner)).1 = .created (.error issue)) :
    StateId.max ≤ r.lastId ∧ .identifierOverflow r.lastId = issue := by
  rw [serve_create] at failed
  by_cases left : r.lastId < StateId.max
  · rw [if_pos left] at failed
    cases failed
  · rw [if_neg left] at failed
    cases failed
    exact ⟨Nat.not_lt.mp left, rfl⟩

/-- A transition is listed by a change of the state that it leaves. If there is none, nothing changes. -/
theorem serve_connect (r : Registry) (t : Transition) :
    r.serve (.connect t) =
      (.connected (r.get? t.source).isSome, r.modify t.source (·.addTransition t)) := by
  simp only [serve, addTransition?]
  cases held : r.get? t.source with
  | none => simp only [Option.map_none, modify_of_get?_eq_none held, Option.isSome_none]
  | some s => rfl

theorem serve_annotate (r : Registry) (id : StateId) (text separator : String) :
    r.serve (.annotate id text separator) =
      (.annotated (r.get? id).isSome, r.modify id (·.annotate text separator)) := rfl

theorem after_append (r : Registry) (earlier later : List Call) :
    r.after (earlier ++ later) = (r.after earlier).after later :=
  List.foldl_append

/-- The number below the first one never changes. -/
theorem serve_startingId (r : Registry) (call : Call) : (r.serve call).2.startingId = r.startingId := by
  cases call with
  | create name kind owner =>
    rw [serve_create]
    split <;> rfl
  | connect t =>
    rw [serve_connect]
    exact modify_startingId ..
  | annotate id text separator => exact modify_startingId ..

theorem after_startingId (r : Registry) (calls : List Call) :
    (r.after calls).startingId = r.startingId := by
  induction calls generalizing r with
  | nil => rfl
  | cons call later ih => exact (ih _).trans (serve_startingId ..)

end Registry

namespace IndexedRegistry

variable {x : IndexedRegistry} {r : Registry}

/-- The same states as in a registry, and an index to them. -/
structure Represents (x : IndexedRegistry) (r : Registry) : Prop where
  /-- The numbers of the states follow from their places. -/
  numbered : r.Numbered
  /-- The states are the same, in the same order. -/
  states : x.states.toList = r.states
  /-- The number handed out last is the same. -/
  lastId : x.lastId = r.lastId
  /-- The index has an entry for each number that was handed out, and no others. -/
  index : ∀ id place, x.index[id]? = some place ↔ place < r.states.length ∧ id = r.startingId + 1 + place

theorem represents_empty (startingId : StateId) : (empty startingId).Represents (.empty startingId) where
  numbered := Registry.numbered_empty startingId
  states := rfl
  lastId := rfl
  index id place := by simp [empty, Registry.empty]

/-- Either neither the index nor the numbering leads anywhere, or both lead to the place of one state. -/
theorem Represents.lookup (represents : x.Represents r) (id : StateId) :
    (x.index[id]? = none ∧ r.get? id = none) ∨
      ∃ place s, x.index[id]? = some place ∧ r.position? id = some place ∧ x.states[place]? = some s ∧
        r.get? id = some s := by
  have same (place : Nat) : x.states[place]? = r.states[place]? := by
    rw [← represents.states, Array.getElem?_toList]
  cases entry : x.index[id]? with
  | none =>
    -- A state with this number would have an entry.
    refine .inl ⟨rfl, Option.eq_none_iff_forall_ne_some.mpr fun s held => ?_⟩
    obtain ⟨member, rfl⟩ := represents.numbered.get?_eq_some_iff.mp held
    obtain ⟨place, there⟩ := List.mem_iff_getElem?.mp member
    have bound := (List.getElem?_eq_some_iff.mp there).1
    rw [(represents.index _ place).mpr ⟨bound, represents.numbered place s there⟩] at entry
    contradiction
  | some place =>
    obtain ⟨bound, rfl⟩ := (represents.index _ _).mp entry
    have position : r.position? (r.startingId + 1 + place) = some place := by
      unfold Registry.position?
      rw [if_pos (by lia)]
      exact congrArg some (by lia)
    have there := List.getElem?_eq_getElem bound
    refine .inr ⟨place, r.states[place], rfl, position, (same place).trans there, ?_⟩
    unfold Registry.get?
    rw [position]
    exact there

/-- An access by the index is one by the number, and never goes beyond the states. -/
theorem Represents.get?_eq (represents : x.Represents r) (id : StateId) :
    x.get? id = some (r.get? id) := by
  unfold get?
  rcases represents.lookup id with ⟨nowhere, unknown⟩ | ⟨place, s, entry, -, there, held⟩
  · rw [nowhere, unknown]
  · simp only [entry, there, held, Option.map_some]

/-- So is a change. -/
theorem Represents.modify? (represents : x.Represents r) (id : StateId) (change : State → State)
    (kept : ∀ s, (change s).id = s.id) :
    ∃ y, x.modify? id change = some ((r.get? id).isSome, y) ∧ y.Represents (r.modify id change) := by
  unfold IndexedRegistry.modify?
  rcases represents.lookup id with ⟨nowhere, unknown⟩ | ⟨place, s, entry, position, there, held⟩
  · rw [Registry.modify_of_get?_eq_none unknown]
    exact ⟨x, by simp only [nowhere, unknown, Option.isSome_none], represents⟩
  · refine ⟨{ x with states := x.states.modify place change }, ?_, ?_⟩
    · simp only [entry, there, held, Option.map_some, Option.isSome_some]
    · have changed : r.modify id change = { r with states := r.states.modify place change } := by
        unfold Registry.modify
        rw [position]
      exact
        { numbered := represents.numbered.modify id kept
          states := by rw [changed, Array.toList_modify, represents.states]
          lastId := represents.lastId.trans (r.modify_lastId id change).symm
          index := by simpa only [changed, List.length_modify] using represents.index }

/-- A new state comes after the others in both, and its number is new to the index. -/
theorem Represents.push (represents : x.Represents r) (name : String) (kind : Kind) (owner : Scope) :
    IndexedRegistry.Represents
      { states := x.states.push (State.blank (r.lastId + 1) name kind owner)
        index := x.index.insert (r.lastId + 1) x.states.size
        lastId := r.lastId + 1 }
      (r.push name kind owner) where
  numbered := represents.numbered.push name kind owner
  states := by rw [Array.toList_push, represents.states, Registry.push_states]
  lastId := (r.push_lastId name kind owner).symm
  index id place := by
    have size : x.states.size = r.states.length := by rw [← represents.states, Array.length_toList]
    -- The new number is above all that the index has entries for, so no entry is replaced.
    rw [Std.HashMap.getElem?_insert, Registry.push_states, Registry.push_startingId, List.length_append,
      List.length_singleton, size]
    by_cases new : r.lastId + 1 = id
    · subst new
      simp only [beq_self_eq_true, if_true, Option.some.injEq, Registry.lastId]
      lia
    · rw [if_neg (by simpa using new), represents.index]
      unfold Registry.lastId at new
      lia

theorem serve?_create_of_full (full : StateId.max ≤ x.lastId) (name : String) (kind : Kind) (owner : Scope) :
    x.serve? (.create name kind owner) = some (.created (.error (.identifierOverflow x.lastId)), x) := by
  have none : ¬ x.lastId + 1 ≤ StateId.max := Nat.not_lt.mpr full
  simp only [serve?, create, if_neg none]

/-- Whatever is asked for, the index leads to a place, the answers are the same, and so are the states after that. -/
theorem Represents.serve? (represents : x.Represents r) (call : Registry.Call) :
    ∃ y, x.serve? call = some ((r.serve call).1, y) ∧ y.Represents (r.serve call).2 := by
  cases call with
  | create name kind owner =>
    rw [Registry.serve_create]
    simp only [IndexedRegistry.serve?, IndexedRegistry.create, represents.lastId, Nat.add_one_le_iff]
    by_cases left : r.lastId < StateId.max
    · simp only [if_pos left]
      exact ⟨_, rfl, represents.push name kind owner⟩
    · simp only [if_neg left]
      exact ⟨x, rfl, represents⟩
  | connect t =>
    obtain ⟨y, changed, after⟩ := represents.modify? t.source (·.addTransition t) fun _ => rfl
    rw [Registry.serve_connect]
    exact ⟨y, by simp only [IndexedRegistry.serve?, changed, Option.map_some], after⟩
  | annotate id text separator =>
    obtain ⟨y, changed, after⟩ := represents.modify? id (·.annotate text separator) fun _ => rfl
    exact ⟨y, by simp only [IndexedRegistry.serve?, changed, Option.map_some, Registry.serve_annotate], after⟩

theorem Represents.after? (represents : x.Represents r) (calls : List Registry.Call) :
    ∃ y, x.after? calls = some y ∧ y.Represents (r.after calls) := by
  induction calls generalizing x r with
  | nil => exact ⟨x, rfl, represents⟩
  | cons call later ih =>
    obtain ⟨between, served, here⟩ := represents.serve? call
    obtain ⟨y, ran, there⟩ := ih here
    refine ⟨y, ?_, there⟩
    unfold IndexedRegistry.after? at ran ⊢
    rw [List.foldlM_cons, served]
    exact ran

end IndexedRegistry

namespace Reading

variable {o : Options} {r next : Reading}

/-- A move asks the registry for one thing at most. -/
theorem Move.calls {listed : Option Transition} (move : Move o listed r next) :
    ∃ calls, next.draft.registry = r.draft.registry.after calls := by
  cases move with
  | bind | report | enter | leave => exact ⟨[], rfl⟩
  | @create _ _ _ place stereotype missing left =>
    refine ⟨[.create place.name ((stereotype.map Kind.ofStereotype).getD place.kind) place.owner], ?_⟩
    show _ = (Registry.serve _ _).2
    rw [Registry.serve_create, if_pos left]
    rfl
  | @annotate _ id text known => exact ⟨[.annotate id text o.separator], rfl⟩
  | @connect _ t source target =>
    refine ⟨[.connect t], ?_⟩
    show _ = (Registry.serve _ _).2
    rw [Registry.serve_connect, addTransition_eq]
    rfl

theorem Moves.calls (moves : Moves o r next) :
    ∃ calls, next.draft.registry = r.draft.registry.after calls := by
  induction moves with
  | refl => exact ⟨[], rfl⟩
  | tail _ move ih =>
    obtain ⟨earlier, before⟩ := ih
    obtain ⟨_, move⟩ := move
    obtain ⟨later, after⟩ := move.calls
    exact ⟨earlier ++ later, by rw [after, before, Registry.after_append]⟩

end Reading

/-- Whatever the registry was asked for, it is as if it had an index. The index has an entry for each state, under the
number that follows from the place of the state. It never leads beyond the states and answers what a search through
the states answers, and there is an answer exactly for the numbers that were handed out. It also gives the same
answers to all further calls. If there is no number left for a new state, nothing changes. A transition is listed
exactly if the state that it leaves is there, after the transitions of that state, and nothing else changes.

The registry of a diagram comes about by such calls. So the diagram, its graph and the index say the same of every
number. -/
theorem registry_indexed :
    (∀ (startingId : StateId) (calls : List Registry.Call),
      let r := (Registry.empty startingId).after calls
      ∃ x, (IndexedRegistry.empty startingId).after? calls = some x ∧ x.Represents r ∧
        (∀ i s, r.states[i]? = some s → s.id = startingId + 1 + i) ∧
        (∀ id, x.get? id = some (r.states.find? fun s => s.id == id) ∧
          r.get? id = (r.states.find? fun s => s.id == id) ∧
          ((r.get? id).isSome ↔ startingId < id ∧ id ≤ r.lastId)) ∧
        (∀ call, ∃ y, x.serve? call = some ((r.serve call).1, y) ∧ y.Represents (r.serve call).2) ∧
        (∀ name kind owner issue, (r.serve (.create name kind owner)).1 = .created (.error issue) →
          issue = .identifierOverflow r.lastId ∧ StateId.max ≤ r.lastId ∧
            r.serve (.create name kind owner) = (.created (.error issue), r) ∧
            x.serve? (.create name kind owner) = some (.created (.error issue), x)) ∧
        ∀ t, ((r.serve (.connect t)).1 = .connected true ↔ ∃ s ∈ r.states, s.id = t.source) ∧
          (r.serve (.connect t)).2 = { r with
            states := r.states.map fun s =>
              if s.id = t.source then { s with transitions := s.transitions ++ [t] } else s }) ∧
    ∀ (o : Options) (text : String) (r : Reading),
      Reading.run o (.start o.startingId.toNat) (numberedLines text) = .ok r →
      ∃ calls x, r.draft.registry = (Registry.empty o.startingId.toNat).after calls ∧
        (IndexedRegistry.empty o.startingId.toNat).after? calls = some x ∧
        ∀ id, x.get? id = some (r.toAnalysis.state? id) ∧
          (Graph.ofStates r.toAnalysis.states).state? id = r.toAnalysis.state? id ∧
          r.draft.registry.get? id = r.toAnalysis.state? id := by
  have indexed (startingId : StateId) := (IndexedRegistry.represents_empty startingId).after?
  refine ⟨?_, ?_⟩
  · intro startingId calls r
    obtain ⟨x, ran, represents⟩ := indexed startingId calls
    have numbered : r.Numbered := represents.numbered
    have start : r.startingId = startingId := Registry.after_startingId ..
    refine ⟨x, ran, represents, ?_, ?_, represents.serve?, ?_, ?_⟩
    · simpa only [Registry.Numbered, start] using numbered
    · intro id
      refine ⟨?_, numbered.get?_eq_find? id, ?_⟩
      · rw [← numbered.get?_eq_find?]
        exact represents.get?_eq id
      · rw [numbered.isSome_get?_iff_known, numbered.known_iff, start]
    · intro name kind owner issue failed
      obtain ⟨full, rfl⟩ := Registry.full_of_failed failed
      refine ⟨rfl, full, Registry.serve_create_of_full full name kind owner, ?_⟩
      rw [← represents.lastId] at full ⊢
      exact IndexedRegistry.serve?_create_of_full full name kind owner
    · intro t
      rw [Registry.serve_connect]
      refine ⟨?_, numbered.modify_eq_map ..⟩
      rw [Registry.Answer.connected.injEq]
      exact numbered.isSome_get?_iff_known
  · intro o text r ran
    obtain ⟨calls, called⟩ : ∃ calls, r.draft.registry = (Registry.empty o.startingId.toNat).after calls :=
      (Reading.run_moves ran).calls
    obtain ⟨x, after, represents⟩ := indexed o.startingId.toNat calls
    refine ⟨calls, x, called, after, fun id => ?_⟩
    rw [← called] at represents
    have numbered := represents.numbered
    have first : r.draft.registry.get? id = r.toAnalysis.state? id := numbered.get?_eq_find? id
    refine ⟨?_, ?_, first⟩
    · rw [← first]
      exact represents.get?_eq id
    · rw [← first, Graph.state?_eq_find?, Graph.ofStates_states]
      exact (numbered.get?_eq_find?_reverse id).symm

/-- A state for the last number, another one for which there is none left, texts and transitions for both numbers and
one for a number below them. -/
def lastNumber : List Registry.Call :=
  [.create "A" .plain .root, .create "B" .fork .root, .connect ⟨2 ^ 64 - 1, 7, some "go"⟩,
    .connect ⟨2 ^ 64, 2 ^ 64 - 1, none⟩, .annotate (2 ^ 64 - 1) "busy" "; ", .annotate 3 "idle" "; ",
    .connect ⟨2 ^ 64 - 2, 2 ^ 64 - 1, none⟩, .connect ⟨2 ^ 64 - 1, 2 ^ 64 - 1, none⟩]

theorem registry_indexed_lastNumber :
    (∃ x, (IndexedRegistry.empty (2 ^ 64 - 2)).after? lastNumber = some x ∧
      x.get? (2 ^ 64 - 1) = some (some ⟨2 ^ 64 - 1, "A", .plain, .root, "busy",
        [⟨2 ^ 64 - 1, 7, some "go"⟩, ⟨2 ^ 64 - 1, 2 ^ 64 - 1, none⟩]⟩) ∧
      x.get? (2 ^ 64 - 2) = some none ∧ x.get? (2 ^ 64) = some none ∧
      x.serve? (.create "C" .join .root) =
        some (.created (.error (.identifierOverflow (2 ^ 64 - 1))), x)) ∧
    ∃ r, Reading.run {} (.start 0) (numberedLines "A --> B : go\nstate C\nB : wait") = .ok r ∧
      (Graph.ofStates r.toAnalysis.states).state? 2 = some ⟨2, "B", .plain, .root, "wait", []⟩ ∧
      r.draft.registry.get? 2 = some ⟨2, "B", .plain, .root, "wait", []⟩ ∧
      (Graph.ofStates r.toAnalysis.states).state? 4 = none ∧ r.draft.registry.get? 4 = none := by
  obtain ⟨indexed, agree⟩ := registry_indexed
  refine ⟨?_, ?_⟩
  · obtain ⟨x, ran, -, -, found, -, failed, -⟩ := indexed (2 ^ 64 - 2) lastNumber
    have states : ((Registry.empty (2 ^ 64 - 2)).after lastNumber).states =
        [⟨2 ^ 64 - 1, "A", .plain, .root, "busy",
          [⟨2 ^ 64 - 1, 7, some "go"⟩, ⟨2 ^ 64 - 1, 2 ^ 64 - 1, none⟩]⟩] := by decide +kernel
    rw [states] at found
    refine ⟨x, ran, (found _).1, (found _).1, (found _).1, ?_⟩
    exact (failed "C" .join .root (.identifierOverflow (2 ^ 64 - 1)) (by decide +kernel)).2.2.2
  · have ran : Reading.run {} (.start 0) (numberedLines "A --> B : go\nstate C\nB : wait") = .ok
        { draft :=
            { nicknames := .empty
              nesting := .outermost
              registry := ⟨0, [⟨1, "A", .plain, .root, "", [⟨1, 2, some "go"⟩]⟩,
                ⟨2, "B", .plain, .root, "wait", []⟩, ⟨3, "C", .plain, .root, "", []⟩]⟩ }
          diagnostics := [] } := by decide +kernel
    obtain ⟨_, _, -, -, same⟩ := agree {} _ _ ran
    exact ⟨_, ran, (same 2).2.1, (same 2).2.2, (same 4).2.1, (same 4).2.2⟩

end Statechart
