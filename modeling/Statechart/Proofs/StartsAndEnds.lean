import Statechart.Proofs.Conservation
import Statechart.Proofs.Growth
import Statechart.Proofs.Requests

/-! Starts and ends. A scope has at most two states written `[*]`, because one is created only where
the first or the second of them is asked for and missing. What leaves a `[*]` leaves the first one,
and what enters a `[*]` enters the second one, with one exception: in a scope that has none, the state
that is created to be entered comes first, and from then on it is taken for the start. -/
namespace Statechart

namespace Registry

variable {r : Registry} {scope : Scope} {change : State → State}

/-- The numbers of the starts and ends of a scope, in order of creation. -/
def initialIds (r : Registry) (scope : Scope) : List StateId :=
  (r.initialsIn scope).map (·.id)

theorem initialIds_push (r : Registry) (name : String) (kind : Kind) (owner scope : Scope) :
    (r.push name kind owner).initialIds scope = r.initialIds scope ++
      if kind = .initial ∧ name = Name.initialMark ∧ owner = scope then [r.lastId + 1] else [] := by
  unfold initialIds initialsIn
  rw [push_states, List.filter_append, List.map_append]
  congr 1
  split
  · rename_i all
    obtain ⟨rfl, rfl, rfl⟩ := all
    simp [State.blank]
  · rename_i other
    have unfit : ((kind == .initial && name == Name.initialMark) && owner == scope) = false := by
      simpa [and_assoc] using other
    simp [State.blank, unfit]

/-- Texts and transitions make no start or end and unmake none. -/
theorem initialIds_modify (numbered : r.Numbered) (id : StateId)
    (grows : ∀ s : State, s.Grows (change s)) (scope : Scope) :
    (r.modify id change).initialIds scope = r.initialIds scope := by
  have same := State.Grows.reach grows id
  unfold initialIds initialsIn
  rw [numbered.modify_states, List.filter_map, List.map_map]
  simp only [Function.comp_def, (same _).id, (same _).name, (same _).kind, (same _).owner]

/-- The first and the second start or end of a scope are different states. -/
theorem Numbered.initialIds_ne (numbered : r.Numbered) {start finish : StateId}
    (first : (r.initialIds scope)[0]? = some start)
    (second : (r.initialIds scope)[1]? = some finish) : start ≠ finish := by
  have distinct : (r.initialIds scope).Nodup := (List.filter_sublist.map _).nodup numbered.nodup
  have bound := (List.getElem?_eq_some_iff.mp second).1
  have apart := List.nodup_iff_getElem?_ne_getElem?.mp distinct 0 1 Nat.zero_lt_one bound
  rintro rfl
  exact apart (first.trans second.symm)

/-- Every state of that kind is written `[*]`, and a scope has at most two of them. -/
structure Paired (r : Registry) : Prop where
  numbered : r.Numbered
  marked : ∀ s ∈ r.states, s.kind = .initial → s.name = Name.initialMark
  at_most_two : ∀ scope, (r.initialIds scope).length ≤ 2

theorem paired_empty (startingId : StateId) : (empty startingId).Paired where
  numbered := numbered_empty startingId
  marked _ member := nomatch member
  at_most_two _ := Nat.zero_le 2

/-- One more start or end is one too many only where there are two. -/
theorem Paired.push (paired : r.Paired) {name : String} {kind : Kind} {owner : Scope}
    (fits : kind = .initial → name = Name.initialMark ∧ (r.initialIds owner).length ≤ 1) :
    (r.push name kind owner).Paired where
  numbered := paired.numbered.push name kind owner
  marked s member initial := by
    rcases List.mem_append.mp member with old | fresh
    · exact paired.marked s old initial
    · obtain rfl := List.mem_singleton.mp fresh
      exact (fits initial).1
  at_most_two scope := by
    rw [initialIds_push, List.length_append]
    split
    · rename_i all
      obtain ⟨initial, -, rfl⟩ := all
      exact Nat.add_le_add_right (fits initial).2 1
    · exact paired.at_most_two scope

theorem Paired.modify (paired : r.Paired) (id : StateId)
    (grows : ∀ s : State, s.Grows (change s)) : (r.modify id change).Paired where
  numbered := paired.numbered.modify id fun s => (grows s).id
  marked s member initial := by
    obtain ⟨before, there, rfl | rfl⟩ := exists_of_mem_modify member
    · exact paired.marked _ there initial
    · rw [(grows before).name]
      exact paired.marked before there ((grows before).kind.symm.trans initial)
  at_most_two scope := by
    rw [initialIds_modify paired.numbered id grows]
    exact paired.at_most_two scope

/-- A state of that kind is among the starts and ends of its owner. -/
theorem Paired.filter_eq (paired : r.Paired) (scope : Scope) :
    r.states.filter (fun s => s.kind == .initial && s.owner == scope) = r.initialsIn scope := by
  apply List.filter_congr
  intro s member
  by_cases initial : s.kind = .initial
  · simp [initial, paired.marked s member initial]
  · have other : (s.kind == .initial) = false := beq_false_of_ne initial
    simp [other]

end Registry

namespace Draft

variable {d : Draft} {identity : Identity} {raw : String} {role : Role} {place : Placement}

/-- A state of that kind is asked for only by `[*]`, and only if the role wants one more of them than
there are in the scope. -/
theorem initial_of_resolve (missing : d.resolve identity raw role = .missing place)
    (initial : place.kind = .initial) :
    d.request identity (d.fullName raw) = .initial ∧ place.name = Name.initialMark ∧
      place.owner = d.nesting.scope ∧ (d.registry.initialIds d.nesting.scope).length ≤ role.rank := by
  obtain ⟨none, rfl⟩ := resolve_eq_missing_iff.mp missing
  cases asked : d.request identity (d.fullName raw) with
  | initial =>
    rw [asked] at none
    have short := List.getElem?_eq_none_iff.mp none
    exact ⟨rfl, rfl, rfl, by simpa [Registry.initialIds] using short⟩
  | history => simp [asked, Request.placement] at initial
  | plain => simp [asked, Request.placement] at initial

end Draft

namespace Reading

variable {o : Options} {r next both last : Reading} {number : Nat} {raw : String} {role : Role}
  {id : StateId} {entry : Line × Nat} {t : Transition}

/-- Every move leaves room for what it adds. -/
theorem Move.paired {listed : Option Transition} (move : Move o listed r next)
    (paired : r.draft.registry.Paired) : next.draft.registry.Paired := by
  cases move with
  | bind | report | enter | leave => exact paired
  | @create _ raw role place stereotype missing left declared =>
    apply paired.push
    intro initial
    obtain ⟨q, rfl⟩ : ∃ q : Request, place = q.placement r.draft.nesting.scope :=
      ⟨_, (Draft.resolve_eq_missing_iff.mp missing).2⟩
    rw [Request.placement_kind] at initial
    have kind : q.kind = .initial := (Request.getD_eq_kind_iff (p := .initial)).mp initial |>.2
    obtain ⟨-, name, owner, short⟩ := Draft.initial_of_resolve missing (by simpa using kind)
    rw [owner]
    exact ⟨name, short.trans role.rank_le_one⟩
  | annotate => exact paired.modify _ fun s => .annotate s _ _
  | connect =>
    rw [addTransition_eq]
    exact paired.modify _ fun s => .addTransition s _

theorem Moves.paired (moves : Moves o r next) (paired : r.draft.registry.Paired) :
    next.draft.registry.Paired :=
  moves.preserves Move.paired paired

/-- Starts and ends keep their places. -/
theorem Moves.initialIds_isPrefix (moves : Moves o r next) (scope : Scope) :
    r.draft.registry.initialIds scope <+: next.draft.registry.initialIds scope := by
  apply moves.grows.filter_isPrefix
  intro s t grown
  rw [grown.kind, grown.name, grown.owner]

/-- A state is known later by the number that it has now. -/
theorem Moves.grows_of_id_eq (moves : Moves o r next) (numbered : next.draft.registry.Numbered)
    {s t : State} (before : s ∈ r.draft.registry.states) (after : t ∈ next.draft.registry.states)
    (same : t.id = s.id) : s.Grows t := by
  obtain ⟨i, held⟩ := List.mem_iff_getElem?.mp before
  obtain ⟨u, there, grown⟩ := moves.grows.states i s held
  obtain rfl := numbered.eq_of_id_eq after (List.mem_of_getElem? there) (same.trans grown.id.symm)
  exact grown

/-- Obtaining a start or an end obtains the one that the role means, unless there are too few of them
for a new one to come in that place. -/
theorem obtain_initial (paired : r.draft.registry.Paired)
    (ran : r.obtain o number raw role none = .ok (id, next)) {s : State}
    (member : s ∈ next.draft.registry.states) (named : s.id = id) (initial : s.kind = .initial) :
    r.draft.request o.identity (r.draft.fullName raw) = .initial ∧
      s.owner = r.draft.nesting.scope ∧
      ((next.draft.registry.initialIds s.owner)[role.rank]? = some id ∨
        (r.draft.registry.initialIds s.owner).length < role.rank) := by
  rcases obtain_eq_ok_iff.mp ran with ⟨found, rfl⟩ | ⟨place, missing, -, rfl, rfl⟩
  -- The state that was found is written `[*]`, so it was found for `[*]` and not by a plain name.
  · obtain ⟨t, hit, sameId⟩ := Draft.resolve_eq_found_iff.mp found
    obtain ⟨inside, name, fits⟩ := Draft.search_eq_some hit
    obtain rfl := paired.numbered.eq_of_id_eq inside member (sameId.trans named.symm)
    have readable := next.draft.request_readable o.identity (next.draft.fullName raw)
    have mark : Request.initial.name = _ := (paired.marked t member initial).symm.trans name
    have kind : Kind.initial = _ := Request.Readable.kind_eq (p := .initial) trivial readable mark
    cases asked : next.draft.request o.identity (next.draft.fullName raw) with
    | initial =>
      rw [asked] at hit fits
      have owner : t.owner = next.draft.nesting.scope := (fits (by simp [Request.kind])).2
      refine ⟨rfl, owner, .inl ?_⟩
      rw [owner, Registry.initialIds, List.getElem?_map]
      rw [Draft.search] at hit
      rw [hit, ← named]
      rfl
    | history => simp [asked, Request.kind] at kind
    | plain => simp [asked, Request.kind] at kind
  · have fresh : s = State.blank (r.draft.registry.lastId + 1) place.name place.kind place.owner :=
      (paired.numbered.push _ _ _).eq_of_id_eq member List.mem_concat_self named
    have kind : place.kind = .initial := by
      rw [fresh] at initial
      exact initial
    obtain ⟨asked, name, owner, short⟩ := Draft.initial_of_resolve missing kind
    have owned : s.owner = r.draft.nesting.scope := by
      rw [fresh]
      exact owner
    refine ⟨asked, owned, ?_⟩
    rw [owned]
    rcases Nat.eq_or_lt_of_le short with full | room
    · left
      show ((r.draft.registry.push place.name place.kind place.owner).initialIds _)[_]? = _
      rw [Registry.initialIds_push, if_pos ⟨kind, name, owner⟩, ← full, List.getElem?_concat_length]
    · exact .inr room

/-- The start or end that was obtained is still the one in that place at the end. -/
theorem obtain_initial_of_moves (paired : r.draft.registry.Paired)
    (ran : r.obtain o number raw role none = .ok (id, next)) (moves : Moves o next last) {s : State}
    (member : s ∈ last.draft.registry.states) (named : s.id = id) (initial : s.kind = .initial) :
    r.draft.request o.identity (r.draft.fullName raw) = .initial ∧
      s.owner = r.draft.nesting.scope ∧
      ((last.draft.registry.initialIds s.owner)[role.rank]? = some id ∨
        (r.draft.registry.initialIds s.owner).length < role.rank) := by
  obtain ⟨silent, t, there, sameId⟩ := obtain_moves none (by simp) ran
  have pairedNext := silent.moves.paired paired
  have grown := moves.grows_of_id_eq (moves.paired pairedNext).numbered there member
    (named.trans sameId.symm)
  obtain ⟨asked, owner, place⟩ :=
    obtain_initial paired ran there sameId (grown.kind.symm.trans initial)
  rw [grown.owner]
  refine ⟨asked, owner, place.imp_left ?_⟩
  intro held
  obtain ⟨bound, here⟩ := List.getElem?_eq_some_iff.mp held
  have kept := moves.initialIds_isPrefix t.owner
  rw [List.prefix_iff_getElem?.mp kept _ bound, here]

/-- Read here, a line is a transition into a `[*]` of a scope that has no start or end yet. -/
def EndsFirst (o : Options) (r : Reading) (entry : Line × Nat) (t : Transition) (both : Reading) :
    Prop :=
  ∃ source target between,
    entry.1 = .transition source target t.event ∧
    r.obtain o entry.2 source .source none = .ok (t.source, between) ∧
    between.obtain o entry.2 target .target none = .ok (t.target, both) ∧
    between.draft.request o.identity (between.draft.fullName target) = .initial ∧
    between.draft.registry.initialsIn between.draft.nesting.scope = []

theorem EndsFirst.writes (ends : r.EndsFirst o entry t both) :
    r.Writes o entry.1 entry.2 t both := by
  obtain ⟨source, target, between, shape, obtainedSource, obtainedTarget, -⟩ := ends
  exact ⟨source, target, between, shape, obtainedSource, obtainedTarget⟩

/-- The line makes the `[*]` that it enters. -/
theorem EndsFirst.initial (ends : r.EndsFirst o entry t both) :
    ∃ s ∈ both.draft.registry.states, s.id = t.target ∧ s.kind = .initial := by
  obtain ⟨source, target, between, -, -, obtained, asked, none⟩ := ends
  rcases obtain_eq_ok_iff.mp obtained with ⟨found, -⟩ | ⟨place, missing, -, created, rfl⟩
  · obtain ⟨s, hit, -⟩ := Draft.resolve_eq_found_iff.mp found
    simp [asked, Draft.search, none] at hit
  · obtain ⟨-, rfl⟩ := Draft.resolve_eq_missing_iff.mp missing
    refine ⟨_, List.mem_concat_self, created.symm, ?_⟩
    simp [asked, State.blank, Request.kind]

/-- That `[*]` is still one at the end. -/
theorem EndsFirst.initial_of_moves (ends : r.EndsFirst o entry t both) (moves : Moves o both last) :
    ∃ s ∈ last.draft.registry.states, s.id = t.target ∧ s.kind = .initial := by
  obtain ⟨s, member, named, initial⟩ := ends.initial
  obtain ⟨i, held⟩ := List.mem_iff_getElem?.mp member
  obtain ⟨u, there, grown⟩ := moves.grows.states i s held
  exact ⟨u, List.mem_of_getElem? there, grown.id.trans named, grown.kind.trans initial⟩

/-- A start or end that a line leaves is the first one of its scope. -/
theorem Writes.source_first (writes : r.Writes o entry.1 entry.2 t both)
    (paired : r.draft.registry.Paired) (moves : Moves o both last) {s : State}
    (member : s ∈ last.draft.registry.states) (leaves : t.source = s.id)
    (initial : s.kind = .initial) : (last.draft.registry.initialIds s.owner)[0]? = some s.id := by
  obtain ⟨source, target, between, -, obtainedSource, obtainedTarget⟩ := writes
  obtain ⟨toTarget, -⟩ := obtain_moves none (by simp) obtainedTarget
  obtain ⟨-, -, held | short⟩ := obtain_initial_of_moves paired obtainedSource
    (toTarget.moves.trans moves) member leaves.symm initial
  · rw [← leaves]
    exact held
  · exact absurd short (Nat.not_lt_zero _)

/-- A start or end that a line enters is the second one of its scope, unless the scope had none. -/
theorem Writes.target_second (writes : r.Writes o entry.1 entry.2 t both)
    (paired : r.draft.registry.Paired) (moves : Moves o both last) {s : State}
    (member : s ∈ last.draft.registry.states) (enters : t.target = s.id)
    (initial : s.kind = .initial) :
    (last.draft.registry.initialIds s.owner)[1]? = some s.id ∨ r.EndsFirst o entry t both := by
  obtain ⟨source, target, between, shape, obtainedSource, obtainedTarget⟩ := writes
  obtain ⟨toSource, -⟩ := obtain_moves none (by simp) obtainedSource
  obtain ⟨asked, owner, held | short⟩ := obtain_initial_of_moves (toSource.moves.paired paired)
    obtainedTarget moves member enters.symm initial
  · left
    rw [← enters]
    exact held
  · right
    refine ⟨source, target, between, shape, obtainedSource, obtainedTarget, asked, ?_⟩
    rw [owner] at short
    have none : (between.draft.registry.initialIds between.draft.nesting.scope).length = 0 :=
      Nat.lt_one_iff.mp short
    rwa [Registry.initialIds, List.length_map, List.length_eq_zero_iff] at none

end Reading

/-- Every scope of a diagram has at most two starts and ends, and they are written `[*]`. -/
theorem initials_at_most_two {o : Options} {text : String} {a : Analysis}
    (read : analyze o text = .ok a) :
    (∀ scope, (a.states.filter fun s => s.kind == .initial && s.owner == scope).length ≤ 2) ∧
    ∀ s ∈ a.states, s.kind = .initial → s.name = "[*]" := by
  obtain ⟨r, ran, rfl⟩ := analyze_eq_ok_iff.mp read
  have paired := (Reading.run_moves ran).paired (Registry.paired_empty o.startingId.toNat)
  constructor
  · intro scope
    have bound := paired.at_most_two scope
    rw [Registry.initialIds, List.length_map, ← paired.filter_eq] at bound
    exact bound
  · exact paired.marked

/-- Two scopes with a start and an end each, of which the inner one has its end first. -/
def crowded : String :=
  "[*] --> A\nA --> [*]\nstate A \x7b\nB --> [*]\n[*] --> [*]"

theorem initials_at_most_two_crowded :
    ∃ a, analyze {} crowded = .ok a ∧
      (a.states.filter (·.kind == .initial)).map (fun s => (s.id, s.owner)) =
        [(1, .root), (3, .root), (5, .state 2), (6, .state 2)] ∧
      (∀ scope, (a.states.filter fun s => s.kind == .initial && s.owner == scope).length ≤ 2) ∧
      ∀ s ∈ a.states, s.kind = .initial → s.name = "[*]" := by
  obtain ⟨a, read, initials⟩ : ∃ a, analyze {} crowded = .ok a ∧
      (a.states.filter (·.kind == .initial)).map (fun s => (s.id, s.owner)) =
        [(1, .root), (3, .root), (5, .state 2), (6, .state 2)] := ⟨_, by cbv, by cbv⟩
  exact ⟨a, read, initials, initials_at_most_two read⟩

/-- All transitions of a diagram. -/
def Analysis.transitions (a : Analysis) : List Transition :=
  a.states.flatMap (·.transitions)

namespace Reading

variable {o : Options} {origin r : Reading} {lines : List (Line × Nat)} {t : Transition}

/-- From where both ends of a transition are there, the diagram goes on to its end. -/
theorem Writes.moves {entry : Line × Nat} {before both : Reading}
    (writes : before.Writes o entry.1 entry.2 t both) (reached : ReachedAt o origin lines entry before)
    (ran : run o origin lines = .ok r) : Moves o both r := by
  obtain ⟨-, source, target⟩ := writes.silentMoves
  exact .head ⟨some t, .connect source target⟩ (reached.moves writes ran)

/-- Every transition of a diagram is written somewhere. -/
theorem exists_writes (lists : origin.Lists []) (ran : run o origin lines = .ok r)
    (member : t ∈ r.toAnalysis.transitions) :
    ∃ entry before both, ReachedAt o origin lines entry before ∧
      before.Writes o entry.1 entry.2 t both ∧ Moves o origin before ∧ Moves o both r := by
  obtain ⟨s, there, inside⟩ := List.mem_flatMap.mp member
  obtain ⟨entry, before, both, reached, writes⟩ := exists_writtenAt lists ran there inside
  have onwards := writes.moves reached ran
  obtain ⟨earlier, later, rfl, ranEarlier⟩ := reached
  exact ⟨entry, before, both, ⟨earlier, later, rfl, ranEarlier⟩, writes, run_moves ranEarlier, onwards⟩

/-- Whatever a line writes is a transition of the diagram. -/
theorem Writes.mem_transitions {entry : Line × Nat} {before both : Reading} (lists : origin.Lists [])
    (reached : ReachedAt o origin lines entry before)
    (writes : before.Writes o entry.1 entry.2 t both) (ran : run o origin lines = .ok r) :
    t ∈ r.toAnalysis.transitions := by
  have onwards := reached.moves writes ran
  obtain ⟨earlier, later, -, ranEarlier⟩ := reached
  obtain ⟨written, -, listsBefore⟩ := run_lists lists ranEarlier
  obtain ⟨silent, source, target⟩ := writes.silentMoves
  have listsAfter := (silent.lists listsBefore).addTransition source target
  obtain ⟨s, member, leaves⟩ := (listsAfter.known t List.mem_concat_self).1
  have inside : t ∈ s.transitions := by
    rw [listsAfter.listed s member]
    simp [leaves]
  obtain ⟨i, held⟩ := List.mem_iff_getElem?.mp member
  obtain ⟨u, there, grown⟩ := onwards.grows.states i s held
  exact List.mem_flatMap.mpr ⟨u, List.mem_of_getElem? there, grown.transitions.subset inside⟩

end Reading

/-- No start or end of a diagram is both left and entered, as long as nothing leaves what was created
as the first of its scope to be entered. -/
theorem start_end_separation {o : Options} {text : String} {a : Analysis} (read : analyze o text = .ok a) :
    (∀ s ∈ a.states, s.kind = .initial →
      ¬ ((∃ t ∈ a.transitions, t.source = s.id) ∧ ∃ t ∈ a.transitions, t.target = s.id)) ↔
    ∀ entry before t both,
      Reading.ReachedAt o (.start o.startingId.toNat) (numberedLines text) entry before →
      before.EndsFirst o entry t both → ∀ other ∈ a.transitions, other.source ≠ t.target := by
  obtain ⟨r, ran, rfl⟩ := analyze_eq_ok_iff.mp read
  have lists := Reading.start_lists o.startingId.toNat
  have pairedStart : (Reading.start o.startingId.toNat).draft.registry.Paired :=
    Registry.paired_empty _
  have paired := (Reading.run_moves ran).paired pairedStart
  constructor
  · intro separate entry before t both reached ends other otherMember leaves
    have entering := Reading.Writes.mem_transitions lists reached ends.writes ran
    obtain ⟨s, member, named, initial⟩ := ends.initial_of_moves (ends.writes.moves reached ran)
    exact separate s member initial
      ⟨⟨other, otherMember, leaves.trans named.symm⟩, t, entering, named.symm⟩
  · rintro unleft s member initial ⟨⟨leaving, leavingMember, leaves⟩, entering, enteringMember, enters⟩
    obtain ⟨_, before, _, _, writes, toBefore, onwards⟩ :=
      Reading.exists_writes lists ran leavingMember
    have first := writes.source_first (toBefore.paired pairedStart) onwards member leaves initial
    obtain ⟨entry, before, both, reached, writes, toBefore, onwards⟩ :=
      Reading.exists_writes lists ran enteringMember
    rcases writes.target_second (toBefore.paired pairedStart) onwards member enters initial with
      second | ends
    · exact paired.numbered.initialIds_ne first second rfl
    · exact unleft entry before entering both reached ends leaving leavingMember
        (leaves.trans enters.symm)

/-- In each of two scopes, a start before an end. -/
def startFirst : String :=
  "[*] --> A\nA --> [*]\nstate A \x7b\n[*] --> B\nB --> [*]"

theorem start_end_separation_startFirst :
    ∃ a, analyze {} startFirst = .ok a ∧
      (∀ s ∈ a.states, s.kind = .initial →
        ¬ ((∃ t ∈ a.transitions, t.source = s.id) ∧ ∃ t ∈ a.transitions, t.target = s.id)) ∧
      ∀ entry before t both,
        Reading.ReachedAt {} (.start 0) (numberedLines startFirst) entry before →
        before.EndsFirst {} entry t both → ∀ other ∈ a.transitions, other.source ≠ t.target := by
  obtain ⟨a, read, separate⟩ : ∃ a, analyze {} startFirst = .ok a ∧
      ∀ s ∈ a.states, s.kind = .initial →
        ¬ ((∃ t ∈ a.transitions, t.source = s.id) ∧ ∃ t ∈ a.transitions, t.target = s.id) :=
    ⟨_, by cbv, by decide⟩
  exact ⟨a, read, separate, (start_end_separation read).mp separate⟩

/-- An end before any start. -/
def endFirst : String :=
  "B --> [*]\n[*] --> A"

/-- The state that was to be the end is the start as well. -/
theorem endFirst_not_separate :
    ∃ a, analyze {} endFirst = .ok a ∧ ∃ s ∈ a.states, s.kind = .initial ∧
      (∃ t ∈ a.transitions, t.source = s.id) ∧ ∃ t ∈ a.transitions, t.target = s.id := by
  refine ⟨_, by cbv, ?_⟩
  decide

end Statechart
