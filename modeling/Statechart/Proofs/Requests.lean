import Statechart.Proofs.Moves
import Statechart.Proofs.Names

/-! Resolving a name takes two steps. A written name asks for something: a start or an end, a history
with a name in a scope, or a plain name. Then that is looked up, and if it is not there, the same
request says what to create. Different requests never have the same answer, so two names mean the
same exactly if they ask for the same. -/
namespace Statechart

/-- What a name asks for. -/
inductive Request where
  /-- A start or an end of the innermost scope. -/
  | initial
  /-- The history with this name in this scope. -/
  | history (name : String) (scope : Scope)
  /-- The state with this plain name. -/
  | plain (name : String)
deriving DecidableEq, Repr

/-- Which one of the starts and ends of a scope a role means, in order of creation. -/
def Role.rank : Role → Nat
  | source | declaration => 0
  | target => 1

theorem Role.rank_le_one (role : Role) : role.rank ≤ 1 := by
  cases role <;> decide

namespace Request

/-- The name of the states that a request can find. -/
def name : Request → String
  | initial => Name.initialMark
  | history name _ => name
  | plain name => name

/-- The kind of a state that is created for a request. -/
def kind : Request → Kind
  | initial => .initial
  | history .. => .history
  | plain _ => .plain

/-- The state to be created for a request that finds none. -/
def placement (innermost : Scope) : Request → Placement
  | initial => { name := Name.initialMark, kind := .initial, owner := innermost }
  | history name scope => { name, kind := .history, owner := scope }
  | plain name => { name, kind := .plain, owner := innermost }

@[simp] theorem placement_name (innermost : Scope) (q : Request) :
    (q.placement innermost).name = q.name := by
  cases q <;> rfl

@[simp] theorem placement_kind (innermost : Scope) (q : Request) :
    (q.placement innermost).kind = q.kind := by
  cases q <;> rfl

theorem placement_owner_of_plain (innermost : Scope) {q : Request} (plain : q.kind = .plain) :
    (q.placement innermost).owner = innermost := by
  cases q with
  | history => cases plain
  | initial | plain => rfl

/-- What is to be created for a request tells the request. -/
theorem placement_inj (innermost : Scope) {p q : Request} :
    p.placement innermost = q.placement innermost ↔ p = q := by
  cases p <;> cases q <;> simp [placement]

/-- No stereotype declares a kind that requests are for. -/
theorem ofStereotype_ne_kind (text : String) (q : Request) : Kind.ofStereotype text ≠ q.kind := by
  unfold Kind.ofStereotype
  dsimp only
  split <;> cases q <;> simp [kind]

/-- So a state gets such a kind only if it is created without a stereotype, for a request of that
kind. -/
theorem getD_eq_kind_iff {stereotype : Option String} {p q : Request} :
    (stereotype.map Kind.ofStereotype).getD q.kind = p.kind ↔ stereotype = none ∧ q.kind = p.kind := by
  cases stereotype with
  | none => simp
  | some text => simp [ofStereotype_ne_kind]

/-- The name of a request tells what it is for. -/
def Readable (q : Request) : Prop :=
  match q with
  | initial => True
  | history name _ => ∃ owner marker, Name.ofString name = .history owner marker
  | plain name => Name.ofString name = .plain name

theorem Readable.kind_eq {p q : Request} (readable : p.Readable) (readable' : q.Readable)
    (same : p.name = q.name) : p.kind = q.kind := by
  have mark := Name.ofString_initialMark
  cases p <;> cases q <;> simp only [Request.name, Readable, kind] at * <;> grind

end Request

theorem Nesting.scope_mem_outward (n : Nesting) : n.scope ∈ n.outward := by
  unfold scope outward
  cases n.enclosing <;> simp

namespace Draft

variable {d : Draft} {identity : Identity} {raw written : String} {role : Role} {id : StateId}
  {place : Placement} {p q : Request} {s : State}

/-- The name that counts when a name is resolved: without the blanks around it, and replaced if it is
a nickname. -/
def fullName (d : Draft) (raw : String) : String :=
  d.nicknames.fullName (String.ofList (Text.trim raw.toList))

/-- What a name asks for, once nicknames are replaced. -/
def request (d : Draft) (identity : Identity) (written : String) : Request :=
  match Name.ofString written with
  | .initial => .initial
  | .history none marker => .history marker d.nesting.scope
  | .history (some owner) marker =>
    match d.findPlain? identity (d.nicknames.fullName owner) with
    | some s => .history marker (.state s.id)
    | none => .history written d.nesting.scope
  | .plain name => .plain name

/-- The state that meets a request. -/
def search (d : Draft) (identity : Identity) (role : Role) : Request → Option State
  | .initial => (d.registry.initialsIn d.nesting.scope)[role.rank]?
  | .history name scope => d.registry.findHistory? name scope
  | .plain name => d.findPlain? identity name

/-- What a request refers to. -/
def answer (d : Draft) (identity : Identity) (role : Role) (q : Request) : Resolution :=
  match d.search identity role q with
  | some s => .found s.id
  | none => .missing (q.placement d.nesting.scope)

/-- To resolve a name is to answer what it asks for. -/
theorem resolve_eq_answer (d : Draft) (identity : Identity) (raw : String) (role : Role) :
    d.resolve identity raw role = d.answer identity role (d.request identity (d.fullName raw)) := by
  unfold resolve fullName request
  dsimp only
  generalize d.nicknames.fullName (String.ofList (Text.trim raw.toList)) = written
  cases Name.ofString written with
  | initial => cases role <;> rfl
  | history owner marker =>
    cases owner with
    | none => rfl
    | some owner =>
      simp only [resolveHistory]
      cases d.findPlain? identity (d.nicknames.fullName owner) <;> rfl
  | plain name => rfl

theorem answer_eq_found_iff :
    d.answer identity role q = .found id ↔ ∃ s, d.search identity role q = some s ∧ s.id = id := by
  unfold answer
  cases d.search identity role q <;> simp

theorem answer_eq_missing_iff :
    d.answer identity role q = .missing place ↔
      d.search identity role q = none ∧ place = q.placement d.nesting.scope := by
  unfold answer
  cases d.search identity role q <;> simp [eq_comm]

/-- Every request that a name makes can be told from its name. -/
theorem request_readable (d : Draft) (identity : Identity) (written : String) :
    (d.request identity written).Readable := by
  unfold request
  cases read : Name.ofString written with
  | initial => trivial
  | history owner marker =>
    cases owner with
    | none => exact ⟨_, _, Name.ofString_marker read⟩
    | some owner =>
      dsimp only
      split
      · exact ⟨_, _, Name.ofString_marker read⟩
      · exact ⟨_, _, read⟩
  | plain name => exact Name.ofString_plain read

/-- The blanks around a name matter only to the history of an unknown owner, which is named after all
that was written. -/
theorem request_trim_iff (d : Draft) (identity : Identity) (written : String) :
    d.request identity written =
        d.request identity (String.ofList (Text.trim written.toList)) ↔
      String.ofList (Text.trim written.toList) = written ∨
      ∀ owner marker, Name.ofString written = .history (some owner) marker →
        d.findPlain? identity (d.nicknames.fullName owner) ≠ none := by
  unfold request
  rw [Name.ofString_trim]
  cases Name.ofString written with
  | initial | plain => simp
  | history owner marker =>
    cases owner with
    | none => simp
    | some owner =>
      cases known : d.findPlain? identity (d.nicknames.fullName owner) with
      | none => simp [known, eq_comm]
      | some s => simp [known]

theorem findPlain?_name {name : String} (found : d.findPlain? identity name = some s) :
    s.name = name := by
  cases identity with
  | global => simpa using List.find?_some found
  | lexical =>
    obtain ⟨scope, -, hit⟩ := List.exists_of_findSome?_eq_some found
    have both : s.name = name ∧ s.owner = scope := by simpa using List.find?_some hit
    exact both.1

/-- What is found for a request is a state of the registry that bears the name asked for. A start, an
end or a history has the kind and the owner that it would be created with. -/
theorem search_eq_some (found : d.search identity role q = some s) :
    s ∈ d.registry.states ∧ s.name = q.name ∧
      (q.kind ≠ .plain → s.kind = q.kind ∧ s.owner = (q.placement d.nesting.scope).owner) := by
  cases q with
  | initial =>
    obtain ⟨member, fits⟩ := List.mem_filter.mp (List.mem_of_getElem? found)
    have three : (s.kind = .initial ∧ s.name = Name.initialMark) ∧ s.owner = d.nesting.scope := by
      simpa using fits
    exact ⟨member, three.1.2, fun _ => ⟨three.1.1, three.2⟩⟩
  | history name scope =>
    have three : (s.kind = .history ∧ s.name = name) ∧ s.owner = scope := by
      simpa using List.find?_some found
    exact ⟨List.mem_of_find?_eq_some found, three.1.2, fun _ => ⟨three.1.1, three.2⟩⟩
  | plain name =>
    exact ⟨findPlain?_mem found, findPlain?_name found, fun other => absurd rfl other⟩

/-- Different requests never have the same answer. -/
theorem answer_inj (numbered : d.registry.Numbered) (readable : p.Readable) (readable' : q.Readable) :
    d.answer identity role p = d.answer identity role q ↔ p = q := by
  constructor
  · intro same
    -- A request is told by what it would create. A state that both of them find has the name, the
    -- kind and the owner of what either would create, but for plain names, where the kind is open.
    rw [← Request.placement_inj d.nesting.scope]
    cases found : d.answer identity role q with
    | missing place =>
      have placeP := (answer_eq_missing_iff.mp (same.trans found)).2
      have placeQ := (answer_eq_missing_iff.mp found).2
      exact placeP.symm.trans placeQ
    | found id =>
      obtain ⟨s, hitP, named⟩ := answer_eq_found_iff.mp (same.trans found)
      obtain ⟨t, hitQ, sameId⟩ := answer_eq_found_iff.mp found
      obtain ⟨memberP, nameP, fitsP⟩ := search_eq_some hitP
      obtain ⟨memberQ, nameQ, fitsQ⟩ := search_eq_some hitQ
      obtain rfl := numbered.eq_of_id_eq memberP memberQ (named.trans sameId.symm)
      have names : p.name = q.name := nameP.symm.trans nameQ
      have kinds : p.kind = q.kind := readable.kind_eq readable' names
      have owners : (p.placement d.nesting.scope).owner = (q.placement d.nesting.scope).owner := by
        by_cases plain : p.kind = .plain
        · rw [Request.placement_owner_of_plain _ plain,
            Request.placement_owner_of_plain _ (kinds.symm.trans plain)]
        · exact (fitsP plain).2.symm.trans (fitsQ (kinds ▸ plain)).2
      calc p.placement d.nesting.scope
          = ⟨p.name, p.kind, (p.placement d.nesting.scope).owner⟩ := by cases p <;> rfl
        _ = ⟨q.name, q.kind, (q.placement d.nesting.scope).owner⟩ := by rw [names, kinds, owners]
        _ = q.placement d.nesting.scope := by cases q <;> rfl
  · rintro rfl
    rfl

theorem resolve_eq_found_iff :
    d.resolve identity raw role = .found id ↔
      ∃ s, d.search identity role (d.request identity (d.fullName raw)) = some s ∧ s.id = id := by
  rw [resolve_eq_answer, answer_eq_found_iff]

theorem resolve_eq_missing_iff :
    d.resolve identity raw role = .missing place ↔
      d.search identity role (d.request identity (d.fullName raw)) = none ∧
        place = (d.request identity (d.fullName raw)).placement d.nesting.scope := by
  rw [resolve_eq_answer, answer_eq_missing_iff]

/-! With one more state, its name is found, and the history of a named owner may be asked for in its
scope. Nothing else about names changes. -/

/-- A state is what a request looks for. -/
def Meets (d : Draft) (identity : Identity) (q : Request) (s : State) : Prop :=
  match q with
  | .initial => s.kind = .initial ∧ s.name = Name.initialMark ∧ s.owner = d.nesting.scope
  | .history name scope => s.kind = .history ∧ s.name = name ∧ s.owner = scope
  | .plain name => s.name = name ∧ (identity = .lexical → s.owner ∈ d.nesting.outward)

/-- A declaration finds something exactly if there is something to find. -/
theorem search_isSome_iff (d : Draft) (identity : Identity) (q : Request) :
    (d.search identity .declaration q).isSome ↔ ∃ s ∈ d.registry.states, d.Meets identity q s := by
  cases q with
  | initial =>
    have first : d.search identity .declaration .initial =
        d.registry.states.find? fun s =>
          s.kind == .initial && s.name == Name.initialMark && s.owner == d.nesting.scope := by
      rw [← List.head?_filter, List.head?_eq_getElem?]
      rfl
    simp [first, Meets, and_assoc]
  | history name scope => simp [search, Registry.findHistory?, Meets, and_assoc]
  | plain name =>
    cases identity with
    | global => simp [search, findPlain?, Registry.findByName?, Meets]
    | lexical =>
      simp only [search, findPlain?, Registry.findInScope?, Meets, List.findSome?_isSome_iff,
        List.find?_isSome, Bool.and_eq_true, beq_iff_eq, forall_const]
      constructor
      · rintro ⟨scope, outward, s, member, named, rfl⟩
        exact ⟨s, member, named, outward⟩
      · rintro ⟨s, member, named, outward⟩
        exact ⟨s.owner, outward, s, member, named, rfl⟩

/-- A state that was created for a request meets it, if it has the kind that it was to have or if
kinds do not matter. -/
theorem meets_placement (d : Draft) (identity : Identity) (q : Request) (id : StateId) (kind : Kind) :
    d.Meets identity q (State.blank id q.name kind (q.placement d.nesting.scope).owner) ↔
      q.kind = .plain ∨ kind = q.kind := by
  cases q with
  | initial => simp [Meets, State.blank, Request.kind, Request.name, Request.placement]
  | history => simp [Meets, State.blank, Request.kind, Request.name, Request.placement]
  | plain =>
    simp [Meets, State.blank, Request.kind, Request.name, Request.placement,
      Nesting.scope_mem_outward]

/-- One more state may be found by its name; any other plain name is found where it was. -/
theorem findPlain?_push (d : Draft) (identity : Identity) (wanted name : String) (kind : Kind)
    (owner : Scope) :
    (d.push name kind owner).findPlain? identity wanted = d.findPlain? identity wanted ∨
    (d.push name kind owner).findPlain? identity wanted =
      some (State.blank (d.registry.lastId + 1) name kind owner) := by
  have searched (fits : State → Bool) :
      (d.push name kind owner).registry.states.find? fits = d.registry.states.find? fits ∨
      (d.push name kind owner).registry.states.find? fits =
        some (State.blank (d.registry.lastId + 1) name kind owner) := by
    rw [push, Registry.push_states, List.find?_append, List.find?_singleton]
    cases d.registry.states.find? fits with
    | some s => exact .inl rfl
    | none =>
      split
      · exact .inr rfl
      · exact .inl rfl
  cases identity with
  | global => exact searched _
  | lexical =>
    simp only [findPlain?, show (d.push name kind owner).nesting = d.nesting from rfl]
    -- Going outward, the new state is found in a scope, or that scope says what it said before.
    induction d.nesting.outward with
    | nil => exact .inl rfl
    | cons scope outer ih =>
      simp only [List.findSome?_cons]
      rcases searched fun s => s.name == wanted && s.owner == scope with same | fresh
      · rw [Registry.findInScope?, Registry.findInScope?, same]
        split
        · exact .inl rfl
        · exact ih
      · rw [Registry.findInScope?, fresh]
        exact .inr rfl

/-- With one more state, a name asks for what it asked for before, or for a history of that state. -/
theorem request_push (d : Draft) (identity : Identity) (written name : String) (kind : Kind)
    (owner : Scope) :
    (d.push name kind owner).request identity written = d.request identity written ∨
    ∃ marker, (d.push name kind owner).request identity written =
      .history marker (.state (d.registry.lastId + 1)) := by
  unfold request
  cases Name.ofString written with
  | initial | plain => exact .inl rfl
  | history holder marker =>
    cases holder with
    | none => exact .inl rfl
    | some holder =>
      rcases d.findPlain?_push identity (d.nicknames.fullName holder) name kind owner with same | fresh
      · left
        dsimp only
        rw [show (d.push name kind owner).nicknames = d.nicknames from rfl, same]
        rfl
      · right
        refine ⟨marker, ?_⟩
        dsimp only
        rw [show (d.push name kind owner).nicknames = d.nicknames from rfl, fresh]
        rfl

/-- Only the history of a named owner asks for what depends on the nicknames and on the states that
there are. What any other name asks for can be told from the name and the innermost scope. -/
theorem request_congr {e : Draft} {written' : String}
    (same : Name.ofString written = Name.ofString written') (nesting : d.nesting = e.nesting)
    (ownerless : ∀ holder marker, Name.ofString written ≠ .history (some holder) marker) :
    d.request identity written = e.request identity written' := by
  unfold request
  rw [← same, nesting]
  cases read : Name.ofString written with
  | initial | plain => rfl
  | history holder marker =>
    cases holder with
    | none => rfl
    | some holder => exact absurd read (ownerless holder marker)

/-- Obtaining a name creates nothing exactly if there is something to find. -/
theorem obtain_registry_eq_iff {next : Draft} {raw : String} {role : Role} {kind : Option Kind}
    {id : StateId} (ran : d.obtain identity raw role kind = .ok (id, next)) :
    next.registry = d.registry ↔
      (d.search identity role (d.request identity (d.fullName raw))).isSome := by
  rcases obtain_eq_ok_iff.mp ran with ⟨found, rfl⟩ | ⟨place, missing, -, -, rfl⟩
  · obtain ⟨s, hit, -⟩ := resolve_eq_found_iff.mp found
    simp [hit]
  · have none := (resolve_eq_missing_iff.mp missing).1
    have longer : (d.push place.name (kind.getD place.kind) place.owner).registry ≠ d.registry := by
      intro same
      have counted := congrArg Registry.lastId same
      rw [push, Registry.push_lastId] at counted
      exact Nat.succ_ne_self _ counted
    simp [none, longer]

theorem request_kind_eq_plain_iff (d : Draft) (identity : Identity) (written : String) :
    (d.request identity written).kind = .plain ↔ ∃ name, Name.ofString written = .plain name := by
  unfold request
  cases Name.ofString written with
  | initial => simp [Request.kind]
  | plain => simp [Request.kind]
  | history holder marker =>
    cases holder with
    | none => simp [Request.kind]
    | some holder =>
      dsimp only
      split <;> simp [Request.kind]

/-- Obtaining a name changes nothing but the registry. -/
theorem eq_of_obtain {next : Draft} {raw : String} {role : Role} {kind : Option Kind} {id : StateId}
    (ran : d.obtain identity raw role kind = .ok (id, next)) :
    d = { next with registry := d.registry } := by
  rcases obtain_eq_ok_iff.mp ran with ⟨-, rfl⟩ | ⟨place, -, -, -, rfl⟩ <;> rfl

end Draft

end Statechart
