import Statechart.Proofs.Nicknames
import Statechart.Proofs.StartsAndEnds

/-! What a name refers to, it keeps referring to. Where names count everywhere in the diagram, each
request looks for the first or the second state of a certain name, kind and owner, and states are
only ever created behind those that are there. So a request that finds a state finds it ever after.
A name that finds a state does too if it goes on asking for the same, and in the same scope with the
same nicknames there is one name that may not: the history of a state that is not there yet is a
history of the innermost scope, and it moves to that state as soon as the state is there. -/
namespace Statechart

namespace Request

/-- A state is one of those that a request looks for, where names count everywhere. -/
def fits (innermost : Scope) : Request → State → Bool
  | initial, s => s.kind == .initial && s.name == Name.initialMark && s.owner == innermost
  | history name scope, s => s.kind == .history && s.name == name && s.owner == scope
  | plain name, s => s.name == name

/-- Which of those states the request means, in order of creation. -/
def rank (role : Role) : Request → Nat
  | initial => role.rank
  | history .. | plain _ => 0

theorem fits_of_grows (innermost : Scope) (q : Request) {s t : State} (grown : s.Grows t) :
    q.fits innermost t = q.fits innermost s := by
  cases q <;> simp only [fits, grown.name, grown.kind, grown.owner]

end Request

namespace Draft

variable {d early late : Draft} {role : Role} {id : StateId} {q : Request} {written : String}

theorem search_global (d : Draft) (role : Role) (q : Request) :
    d.search .global role q =
      (d.registry.states.filter (q.fits d.nesting.scope))[q.rank role]? := by
  cases q with
  | initial => rfl
  | history name scope =>
    rw [Request.rank, ← List.head?_eq_getElem?, List.head?_filter]
    rfl
  | plain name =>
    rw [Request.rank, ← List.head?_eq_getElem?, List.head?_filter]
    rfl

theorem answer_global_eq_found_iff :
    d.answer .global role q = .found id ↔
      ((d.registry.states.filter (q.fits d.nesting.scope)).map (·.id))[q.rank role]? = some id := by
  rw [answer_eq_found_iff, search_global, List.getElem?_map, Option.map_eq_some_iff]

/-- The owner of a history that a name asks for is known later, though it was not known before. -/
def OwnerAppears (early late : Draft) (written : String) : Prop :=
  ∃ owner marker, Name.ofString written = .history (some owner) marker ∧
    early.findPlain? .global (early.nicknames.fullName owner) = none ∧
    late.findPlain? .global (early.nicknames.fullName owner) ≠ none

end Draft

namespace Reading

variable {o : Options} {early late : Reading} {role : Role} {id : StateId} {q : Request}
  {written : String}

/-- A request that is met by a state is met by the same state later on. -/
theorem answer_of_grows (grown : early.toAnalysis.Grows late.toAnalysis)
    (sameScope : late.draft.nesting.scope = early.draft.nesting.scope)
    (found : early.draft.answer .global role q = .found id) :
    late.draft.answer .global role q = .found id := by
  rw [Draft.answer_global_eq_found_iff] at found ⊢
  rw [sameScope]
  have kept := grown.filter_isPrefix (q.fits_of_grows early.draft.nesting.scope)
  obtain ⟨bound, here⟩ := List.getElem?_eq_some_iff.mp found
  exact (List.prefix_iff_getElem?.mp kept _ bound).trans (congrArg some here)

/-- A plain name that is met by a state is met by a state of the same number later on. -/
theorem findPlain?_of_grows (grown : early.toAnalysis.Grows late.toAnalysis) {name : String} {s : State}
    (found : early.draft.findPlain? .global name = some s) :
    ∃ t, late.draft.findPlain? .global name = some t ∧ t.id = s.id :=
  grown.find?_eq_some (fun same => by rw [same.name]) found

/-- A name asks for what it asked for before, unless it asks for the history of a state that was not
known then and is known now. -/
theorem request_eq_iff (grown : early.toAnalysis.Grows late.toAnalysis)
    (sameScope : late.draft.nesting.scope = early.draft.nesting.scope)
    (sameNicknames : late.draft.nicknames = early.draft.nicknames) :
    late.draft.request .global written = early.draft.request .global written ↔
      ¬ early.draft.OwnerAppears late.draft written := by
  unfold Draft.request Draft.OwnerAppears
  rw [sameScope, sameNicknames]
  cases read : Name.ofString written with
  | initial | plain => simp
  | history owner marker =>
    cases owner with
    | none => simp
    | some owner =>
      dsimp only
      cases before : early.draft.findPlain? .global (early.draft.nicknames.fullName owner) with
      | some s =>
        obtain ⟨t, after, same⟩ := findPlain?_of_grows grown before
        simp [before, after, same]
      | none =>
        cases after : late.draft.findPlain? .global (early.draft.nicknames.fullName owner) with
        | none => simp [after]
        | some t =>
          -- What was written has an owner in it, the marker of its history has none.
          have other : marker ≠ written := by
            rintro rfl
            have again := Name.ofString_marker read
            rw [read] at again
            cases again
          simp [before, after, other]

/-- What a name refers to, it refers to later on, in the same scope and with the same nicknames,
unless it asks for the history of a state that was not known then and is known now. -/
theorem resolve_of_grows (grown : early.toAnalysis.Grows late.toAnalysis)
    (numbered : late.draft.registry.Numbered)
    (sameScope : late.draft.nesting.scope = early.draft.nesting.scope)
    (sameNicknames : late.draft.nicknames = early.draft.nicknames) {raw : String}
    (found : early.draft.resolve .global raw role = .found id) :
    late.draft.resolve .global raw role = .found id ↔
      ¬ early.draft.OwnerAppears late.draft (early.draft.fullName raw) := by
  have name : late.draft.fullName raw = early.draft.fullName raw := by
    unfold Draft.fullName
    rw [sameNicknames]
  rw [Draft.resolve_eq_answer] at found
  have kept := answer_of_grows grown sameScope found
  rw [Draft.resolve_eq_answer, name, ← kept,
    Draft.answer_inj numbered (Draft.request_readable _ _ _) (Draft.request_readable _ _ _)]
  exact request_eq_iff grown sameScope sameNicknames

/-- Lines that introduce no nickname but those that are in use leave the nicknames as they are. -/
theorem run_nicknames {lines : List (Line × Nat)} {r next : Reading} (ran : run o r lines = .ok next)
    (unregistered : ∀ entry ∈ lines, ∀ full nickname,
      entry.1.introduction? = some (full, nickname) → r.draft.nicknames.get? nickname ≠ none) :
    next.draft.nicknames = r.draft.nicknames := by
  refine run_preserves (P := fun s => s.draft.nicknames = r.draft.nicknames) ran ?_ rfl
  intro entry member before after stepped same
  rw [step_nicknames stepped, same]
  split
  · rename_i full nickname introduced
    have inUse := unregistered entry member full nickname introduced
    obtain ⟨existing, bound⟩ := Option.ne_none_iff_exists'.mp inUse
    rw [Nicknames.bind, bound]
  · rfl

end Reading

/-- Where names count everywhere, a name that refers to a state refers to that state ever after in
the same scope, as long as no nickname is registered. The one exception is the history of a named
state, which was found in the innermost scope because there was no such state: once there is one, the
name refers to something else. -/
theorem reference_stability {o : Options} {startingId : StateId} {first between : List (Line × Nat)}
    {early late : Reading} {raw : String} {role : Role} {id : StateId}
    (global : o.identity = .global)
    (ranFirst : Reading.run o (.start startingId) first = .ok early)
    (ranBetween : Reading.run o early between = .ok late)
    (sameScope : late.draft.nesting.scope = early.draft.nesting.scope)
    (unregistered : ∀ entry ∈ between, ∀ full nickname,
      entry.1.introduction? = some (full, nickname) → early.draft.nicknames.get? nickname ≠ none)
    (found : early.draft.resolve o.identity raw role = .found id) :
    late.draft.resolve o.identity raw role = .found id ↔
      ¬ early.draft.OwnerAppears late.draft (early.draft.fullName raw) := by
  have moves := Reading.run_moves ranBetween
  have numbered := (Reading.run_moves ranFirst).numbered (Registry.numbered_empty startingId)
  rw [global] at found ⊢
  exact Reading.resolve_of_grows moves.grows (moves.numbered numbered) sameScope
    (Reading.run_nicknames ranBetween unregistered) found

/-- The history of a scope by its nickname, before and after the scope is opened a second time. -/
def opened : String :=
  "state \"Outer\" as O \x7b\nO[H] --> [*]\nstate \"Outer\" as O \x7b\n[*] --> Ghost[H]\n\x7d"

theorem reference_stability_opened :
    ∃ early late, Reading.run {} (.start 0) ((numberedLines opened).take 2) = .ok early ∧
      Reading.run {} early ((numberedLines opened).drop 2) = .ok late ∧
      late.draft.nesting.scope = early.draft.nesting.scope ∧
      early.draft.resolve .global "O[H]" .source = .found 2 ∧
      (¬ early.draft.OwnerAppears late.draft (early.draft.fullName "O[H]")) ∧
      late.draft.resolve .global "O[H]" .source = .found 2 := by
  obtain ⟨early, late, ranFirst, ranBetween, sameScope, found, bound, known, read⟩ : ∃ early late,
      Reading.run {} (.start 0) ((numberedLines opened).take 2) = .ok early ∧
      Reading.run {} early ((numberedLines opened).drop 2) = .ok late ∧
      late.draft.nesting.scope = early.draft.nesting.scope ∧
      early.draft.resolve .global "O[H]" .source = .found 2 ∧
      early.draft.nicknames.get? "O" = some "Outer" ∧
      (early.draft.findPlain? .global (early.draft.nicknames.fullName "O")).isSome ∧
      Name.ofString (early.draft.fullName "O[H]") = .history (some "O") "[H]" :=
    ⟨_, _, by cbv, by cbv, by cbv, by cbv, by cbv, by cbv, by cbv⟩
  have unregistered : ∀ entry ∈ (numberedLines opened).drop 2, ∀ full nickname,
      entry.1.introduction? = some (full, nickname) → early.draft.nicknames.get? nickname ≠ none := by
    have names : ∀ entry ∈ (numberedLines opened).drop 2,
        entry.1.introduction? = none ∨ entry.1.introduction? = some ("Outer", "O") := by decide
    intro entry member full nickname introduced
    rcases names entry member with none | same
    · cases none.symm.trans introduced
    · cases same.symm.trans introduced
      simp [bound]
  have unmoved : ¬ early.draft.OwnerAppears late.draft (early.draft.fullName "O[H]") := by
    rintro ⟨owner, marker, readAgain, unknown, -⟩
    cases read.symm.trans readAgain
    simp [unknown] at known
  exact ⟨early, late, ranFirst, ranBetween, sameScope, found, unmoved,
    (reference_stability rfl ranFirst ranBetween sameScope unregistered found).mpr unmoved⟩

/-- The history of a state that is declared only afterwards. -/
def declaredLate : String :=
  "A --> Ghost[H]\nstate Ghost \x7b\n\x7d"

/-- Once the state is declared, its history refers to something else. -/
theorem declaredLate_not_stable :
    ∃ early late, Reading.run {} (.start 0) ((numberedLines declaredLate).take 1) = .ok early ∧
      Reading.run {} early ((numberedLines declaredLate).drop 1) = .ok late ∧
      late.draft.nesting.scope = early.draft.nesting.scope ∧
      (∀ entry ∈ (numberedLines declaredLate).drop 1, entry.1.introduction? = none) ∧
      early.draft.resolve .global "Ghost[H]" .target = .found 2 ∧
      late.draft.resolve .global "Ghost[H]" .target ≠ .found 2 := by
  refine ⟨_, _, by cbv, by cbv, by cbv, ?_, by cbv, ?_⟩
  · decide
  · decide

end Statechart
