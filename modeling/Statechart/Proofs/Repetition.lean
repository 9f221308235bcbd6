import Statechart.Proofs.Nicknames
import Statechart.Proofs.Ownership

/-! Declaring a state twice. The second declaration introduces the same nickname for the same name and
asks for the name again, so it adds nothing if it finds what the first one created. There are two ways
to miss that. Starts, ends and histories are looked for by their kind, so one that was created with
the kind of a stereotype is not found. And the name of a history may be read differently once a state
has that name: if its owner is a nickname of the whole, the owner is known the second time. -/
namespace Statechart

/-- The name that a line declares, with the stereotype that it has, if the line does nothing else to
the state. -/
def Line.declaration? : Line → Option (String × Option String)
  | aliased name _ stereotype => some (name, stereotype)
  | stereotyped name stereotype => some (name, some stereotype)
  | simple name none => some (name, none)
  | _ => none

/-- A line introduces a nickname that stands for something else. -/
def Line.Conflicts (line : Line) (table : Nicknames) : Prop :=
  ∃ full nickname, line.introduction? = some (full, nickname) ∧
    (table.get? nickname).getD full ≠ full

namespace Line

variable {line : Line} {table : Nicknames} {full nickname : String}

theorem not_conflicts_of_none (silent : line.introduction? = none) : ¬ line.Conflicts table := by
  rintro ⟨full, nickname, introduced, -⟩
  rw [silent] at introduced
  cases introduced

theorem conflicts_iff_of_some (introduces : line.introduction? = some (full, nickname)) :
    line.Conflicts table ↔ (table.get? nickname).getD full ≠ full := by
  constructor
  · rintro ⟨_, _, introduced, other⟩
    cases introduces.symm.trans introduced
    exact other
  · intro other
    exact ⟨full, nickname, introduces, other⟩

end Line

theorem Nicknames.bind_bind (table : Nicknames) (full nickname : String) :
    (table.bind full nickname).bind full nickname = table.bind full nickname := by
  have bound : ∃ existing, (table.bind full nickname).get? nickname = some existing := by
    rw [get?_bind, if_pos rfl]
    exact ⟨_, rfl⟩
  obtain ⟨existing, bound⟩ := bound
  conv => lhs; rw [Nicknames.bind, bound]

namespace Draft

variable {d : Draft} {identity : Identity} {written : String} {q : Request} {s : State}

/-- What was created for a request is found for it, if it has the kind that was asked for or if kinds
do not matter. -/
theorem search_push_isSome_iff (kind : Kind) (missing : d.search identity .declaration q = none) :
    ((d.push q.name kind (q.placement d.nesting.scope).owner).search identity .declaration q).isSome ↔
      q.kind = .plain ∨ kind = q.kind := by
  have unmet : ¬ ∃ s ∈ d.registry.states, d.Meets identity q s := by
    rw [← search_isSome_iff, missing]
    simp
  rw [search_isSome_iff, ← d.meets_placement identity q (d.registry.lastId + 1) kind]
  constructor
  · rintro ⟨s, member, meets⟩
    rcases List.mem_append.mp member with old | fresh
    · exact absurd ⟨s, old, meets⟩ unmet
    · obtain rfl := List.mem_singleton.mp fresh
      exact meets
  · intro meets
    exact ⟨_, List.mem_concat_self, meets⟩

/-- What was created for a name is found for the name, if it is found for what the name asked for and
the name still asks for that. Otherwise the name asks for a history of what was created, and there is
none. -/
theorem search_request_push_isSome_iff {next : Draft} {kind : Kind}
    (asked : d.request identity written = q) (missing : d.search identity .declaration q = none)
    (created : next = d.push q.name kind (q.placement d.nesting.scope).owner)
    (forest : next.registry.Forest) :
    (next.search identity .declaration (next.request identity written)).isSome ↔
      (q.kind = .plain ∨ kind = q.kind) ∧ next.request identity written = q := by
  by_cases same : next.request identity written = q
  · rw [same, created, search_push_isSome_iff kind missing]
    simp
  · have elsewhere : ∃ marker,
        next.request identity written = .history marker (.state (d.registry.lastId + 1)) := by
      rw [created] at same ⊢
      rcases d.request_push identity written _ _ _ with kept | fresh
      · exact absurd (kept.trans asked) same
      · exact fresh
    obtain ⟨marker, fresh⟩ := elsewhere
    -- The search cannot succeed: whatever has an owner came after it, and this owner came last.
    have newest : next.registry.lastId = d.registry.lastId + 1 := by
      rw [created, push, Registry.push_lastId]
    have unowned : ¬ (next.search identity .declaration (next.request identity written)).isSome := by
      rw [search_isSome_iff, fresh, ← newest]
      rintro ⟨s, member, -, -, owned⟩
      exact forest.owner_ne_last member owned
    simp [same, unowned]

/-- A name is obtained twice. The second time it is found, if nothing was created the first time, or
if what was created has the kind that is looked for and the name asks for the same as before. -/
theorem obtain_again {next last : Draft} {raw : String} {id again : StateId}
    {stereotype : Option String} (forest : next.registry.Forest)
    (once : d.obtain identity raw .declaration (stereotype.map Kind.ofStereotype) = .ok (id, next))
    (twice : next.obtain identity raw .declaration (stereotype.map Kind.ofStereotype) =
      .ok (again, last)) :
    last.registry = next.registry ↔
      next.registry = d.registry ∨
      (stereotype = none ∨ ∃ plain, Name.ofString (next.fullName raw) = .plain plain) ∧
        next.request identity (next.fullName raw) = d.request identity (next.fullName raw) := by
  have names : next.fullName raw = d.fullName raw := by
    rw [eq_of_obtain once]
    rfl
  rw [obtain_registry_eq_iff twice, obtain_registry_eq_iff once, names]
  rcases obtain_eq_ok_iff.mp once with ⟨found, rfl⟩ | ⟨place, missing, -, -, created⟩
  · obtain ⟨s, hit, -⟩ := resolve_eq_found_iff.mp found
    simp [hit]
  · obtain ⟨none, rfl⟩ := resolve_eq_missing_iff.mp missing
    rw [Request.placement_name, Request.placement_kind] at created
    rw [none, search_request_push_isSome_iff rfl none created forest,
      Request.getD_eq_kind_iff, request_kind_eq_plain_iff]
    simp [or_comm]

end Draft

namespace Reading

variable {o : Options} {r next last : Reading} {number later : Nat} {line : Line} {name : String}
  {stereotype : Option String}

/-- Introducing a nickname changes nothing else, unless the nickname stands for something else. -/
theorem introduce_eq (r : Reading) (number : Nat) (full nickname : String) :
    ((r.draft.nicknames.get? nickname).getD full = full ∧ ∃ between,
      r.introduce number full nickname = (true, between) ∧
        between.draft = { r.draft with nicknames := between.draft.nicknames }) ∨
    ((r.draft.nicknames.get? nickname).getD full ≠ full ∧ ∃ issue,
      r.introduce number full nickname = (false, r.report number issue)) := by
  obtain ⟨free, result⟩ | ⟨bound, result⟩ | ⟨existing, bound, other, result⟩ :=
    r.introduce_cases number full nickname
  · exact .inl ⟨by simp [free], _, result, rfl⟩
  · exact .inl ⟨by simp [bound], _, result, rfl⟩
  · exact .inr ⟨by simpa [bound] using other, _, result⟩

/-- A name is obtained with the nicknames that are in force afterwards. -/
theorem draft_obtain_of_obtain {between : Reading} {raw : String} {role : Role} {kind : Option Kind}
    {id : StateId} (introduced : between.draft = { r.draft with nicknames := between.draft.nicknames })
    (ran : between.obtain o number raw role kind = .ok (id, next)) :
    Draft.obtain { r.draft with nicknames := next.draft.nicknames } o.identity raw role kind =
      .ok (id, next.draft) := by
  rw [obtain_nicknames ran, ← introduced]
  unfold obtain at ran
  split at ran
  · rename_i result
    cases ran
    exact result
  · cases ran

/-- A declaration whose nickname stands for something else is passed over. Any other one obtains its
name, with its nickname in force. -/
theorem step_declaration (declares : line.declaration? = some (name, stereotype))
    (ran : r.step o number line = .ok next) :
    (line.Conflicts r.draft.nicknames ∧ next.draft = r.draft) ∨
    ¬ line.Conflicts r.draft.nicknames ∧ ∃ id,
      Draft.obtain { r.draft with nicknames := next.draft.nicknames } o.identity name .declaration
        (stereotype.map Kind.ofStereotype) = .ok (id, next.draft) := by
  cases step_reads ran with
  | @aliased full nickname given id next agrees asked =>
    cases declares
    rw [Line.conflicts_iff_of_some rfl]
    rcases r.introduce_eq number name nickname with ⟨fits, between, result, introduced⟩ | ⟨-, issue, result⟩
    · rw [result] at asked
      exact .inr ⟨not_not.mpr fits, id, draft_obtain_of_obtain introduced asked⟩
    · rw [result] at agrees
      cases agrees
  | @refused full nickname given conflicts =>
    cases declares
    rw [Line.conflicts_iff_of_some rfl]
    rcases r.introduce_eq number name nickname with ⟨-, between, result, -⟩ | ⟨other, issue, result⟩
    · rw [result] at conflicts
      cases conflicts
    · rw [result]
      exact .inl ⟨other, rfl⟩
  | stereotyped asked | simple asked =>
    cases declares
    exact .inr ⟨Line.not_conflicts_of_none rfl, _, draft_obtain_of_obtain rfl asked⟩
  | composite | compositeAliased | close | described | transition | content | unresolved | ignored =>
    cases declares

/-- Right after a line, its nickname is in force or in conflict as it was for the line itself. -/
theorem step_nicknames_again (once : r.step o number line = .ok next)
    (twice : next.step o later line = .ok last) :
    last.draft.nicknames = next.draft.nicknames ∧
      (line.Conflicts next.draft.nicknames ↔ line.Conflicts r.draft.nicknames) := by
  have first := step_nicknames once
  have second := step_nicknames twice
  cases introduced : line.introduction? with
  | none =>
    rw [introduced] at first second
    exact ⟨second, iff_of_false (Line.not_conflicts_of_none introduced)
      (Line.not_conflicts_of_none introduced)⟩
  | some names =>
    obtain ⟨full, nickname⟩ := names
    rw [introduced] at first second
    dsimp only at first second
    rw [second, first, Nicknames.bind_bind, Line.conflicts_iff_of_some introduced,
      Line.conflicts_iff_of_some introduced, Nicknames.get?_bind, if_pos rfl, Option.getD_some]
    exact ⟨rfl, Iff.rfl⟩

/-- A line that declares a state and is read twice is passed over twice, or its name is obtained
twice. -/
theorem step_declaration_again (declares : line.declaration? = some (name, stereotype))
    (once : r.step o number line = .ok next) (twice : next.step o later line = .ok last) :
    (next.draft = r.draft ∧ last.draft = next.draft) ∨
    ∃ id again,
      Draft.obtain { r.draft with nicknames := next.draft.nicknames } o.identity name .declaration
        (stereotype.map Kind.ofStereotype) = .ok (id, next.draft) ∧
      next.draft.obtain o.identity name .declaration (stereotype.map Kind.ofStereotype) =
        .ok (again, last.draft) := by
  obtain ⟨kept, same⟩ := step_nicknames_again once twice
  rcases step_declaration declares once with ⟨conflict, passed⟩ | ⟨free, id, obtained⟩
  · rcases step_declaration declares twice with ⟨-, passedAgain⟩ | ⟨free, -⟩
    · exact .inl ⟨passed, passedAgain⟩
    · exact absurd (same.mpr conflict) free
  · rcases step_declaration declares twice with ⟨conflict, -⟩ | ⟨-, again, obtainedAgain⟩
    · exact absurd (same.mp conflict) free
    · rw [kept] at obtainedAgain
      exact .inr ⟨id, again, obtained, obtainedAgain⟩

/-- With one more line, a diagram is what it was before, with that line read last. -/
theorem run_line (o : Options) (r : Reading) (text : String) {added : String}
    (single : '\n' ∉ added.toList) (matters : Line.classify added ≠ .ignored) :
    ∃ number, run o r (numberedLines (text ++ "\n" ++ added)) =
      run o r (numberedLines text) >>= fun r => r.step o number (Line.classify added) := by
  have written : added.toList ≠ [] := by
    intro empty
    apply matters
    rw [Line.classify, empty]
    rfl
  have last (number : Nat) (r : Reading) :
      run o r ((classifiedLines [added.toList]).zipIdx number) =
        r.step o number (Line.classify added) := by
    rw [classifiedLines, List.map_singleton, String.ofList_toList]
    exact bind_pure _
  have skipped (number : Nat) (r : Reading) :
      run o r ((classifiedLines ([[]] ++ [added.toList])).zipIdx number) =
        r.step o (number + 1) (Line.classify added) := by
    have hollow : classifiedLines [[]] = [.ignored] := rfl
    have parts : classifiedLines ([[]] ++ [added.toList]) =
        [.ignored] ++ classifiedLines [added.toList] := by
      rw [← hollow, classifiedLines, List.map_append]
      rfl
    have nothing : run o r ([Line.ignored].zipIdx number) = pure r := rfl
    rw [parts, List.zipIdx_append, run_append, nothing, pure_bind]
    exact last (number + 1) r
  rw [numberedLines_append, run_append, Text.lines_of_not_mem single written]
  unfold Text.gap
  split
  · exact ⟨_, congrArg _ (funext (skipped _))⟩
  · exact ⟨_, congrArg _ (funext (last _))⟩

/-- Lines that add no state and change none leave the registry as it is. -/
theorem Moves.registry_eq_iff (moves : Moves o r next) :
    next.draft.registry = r.draft.registry ↔ next.toAnalysis.states = r.toAnalysis.states := by
  have started := moves.startingId_eq
  constructor
  · intro same
    rw [toAnalysis, toAnalysis, same]
  · intro same
    calc next.draft.registry
        = ⟨next.draft.registry.startingId, next.toAnalysis.states⟩ := rfl
      _ = ⟨r.draft.registry.startingId, r.toAnalysis.states⟩ := by rw [started, same]
      _ = r.draft.registry := rfl

end Reading

/-- Declaring a state once more adds nothing exactly if the first declaration added nothing, or if it
created a state that is found by what the name asks for: a stereotype may have changed the kind of a
plain name only, and the name must ask for what it asked for before that state was there. Every name
but the history of a named owner does. -/
theorem declaration_repeated {o : Options} {text line name : String} {stereotype : Option String}
    {a b : Analysis} (single : '\n' ∉ line.toList)
    (declares : (Line.classify line).declaration? = some (name, stereotype))
    (once : analyze o (text ++ "\n" ++ line) = .ok a)
    (twice : analyze o (text ++ "\n" ++ line ++ "\n" ++ line) = .ok b) :
    ∃ before after full,
      Reading.run o (.start o.startingId.toNat) (numberedLines text) = .ok before ∧
      Reading.run o (.start o.startingId.toNat) (numberedLines (text ++ "\n" ++ line)) = .ok after ∧
      full = after.draft.fullName name ∧
      (b.states = a.states ∧ b.lastId = a.lastId ↔
        a.states = before.toAnalysis.states ∨
        (stereotype = none ∨ ∃ plain, Name.ofString full = .plain plain) ∧
          after.draft.request o.identity full =
            { after.draft with registry := before.draft.registry }.request o.identity full) ∧
      ((∀ holder marker, Name.ofString full ≠ .history (some holder) marker) →
        after.draft.request o.identity full =
          { after.draft with registry := before.draft.registry }.request o.identity full) := by
  have matters : Line.classify line ≠ .ignored := by
    intro ignored
    rw [ignored] at declares
    cases declares
  obtain ⟨number, reads⟩ := Reading.run_line o (.start o.startingId.toNat) text single matters
  obtain ⟨later, readsOn⟩ := Reading.run_line o (.start o.startingId.toNat) (text ++ "\n" ++ line)
    single matters
  obtain ⟨after, ran, rfl⟩ := analyze_eq_ok_iff.mp once
  obtain ⟨last, ranLast, rfl⟩ := analyze_eq_ok_iff.mp twice
  obtain ⟨before, ranBefore, stepped⟩ := bind_eq_ok_iff.mp (reads.symm.trans ran)
  obtain ⟨_, ranAgain, steppedAgain⟩ := bind_eq_ok_iff.mp (readsOn.symm.trans ranLast)
  cases ran.symm.trans ranAgain
  refine ⟨before, after, _, ranBefore, ran, rfl, ?_, fun ownerless =>
    Draft.request_congr rfl rfl ownerless⟩
  have added := (Reading.step_moves stepped).registry_eq_iff
  have addedAgain := (Reading.step_moves steppedAgain).registry_eq_iff
  have conclusion : last.toAnalysis.states = after.toAnalysis.states ∧
      last.toAnalysis.lastId = after.toAnalysis.lastId ↔
      last.draft.registry = after.draft.registry := by
    constructor
    · rintro ⟨states, -⟩
      exact addedAgain.mpr states
    · intro same
      simp [Reading.toAnalysis, same]
  rw [conclusion, ← added]
  have forest := ((Reading.run_moves ran).rooted (Reading.start_rooted _)).forest
  rcases Reading.step_declaration_again declares stepped steppedAgain with
    ⟨passed, passedAgain⟩ | ⟨id, again, obtained, obtainedAgain⟩
  · simp [passed, passedAgain]
  · have same : { before.draft with nicknames := after.draft.nicknames } =
        { after.draft with registry := before.draft.registry } := Draft.eq_of_obtain obtained
    rw [same] at obtained
    exact Draft.obtain_again forest obtained obtainedAgain

/-- A nickname for the history of a state. -/
def remembered : String :=
  "state \"A[H]\" as M"

theorem declaration_repeated_remembered :
    ∃ a b, analyze {} ("state A" ++ "\n" ++ remembered) = .ok a ∧
      analyze {} ("state A" ++ "\n" ++ remembered ++ "\n" ++ remembered) = .ok b ∧
      (a.states.map (·.kind) = [.plain, .history] ∧ b.states = a.states ∧ b.lastId = a.lastId) ∧
      ∃ before after full,
        Reading.run {} (.start 0) (numberedLines "state A") = .ok before ∧
        Reading.run {} (.start 0) (numberedLines ("state A" ++ "\n" ++ remembered)) = .ok after ∧
        full = after.draft.fullName "A[H]" ∧
        (a.states = before.toAnalysis.states ∨
          after.draft.request .global full =
            { after.draft with registry := before.draft.registry }.request .global full) := by
  obtain ⟨a, b, once, twice, kinds, kept⟩ : ∃ a b,
      analyze {} ("state A" ++ "\n" ++ remembered) = .ok a ∧
      analyze {} ("state A" ++ "\n" ++ remembered ++ "\n" ++ remembered) = .ok b ∧
      a.states.map (·.kind) = [.plain, .history] ∧ b.states = a.states ∧ b.lastId = a.lastId :=
    ⟨_, _, by cbv, by cbv, by cbv, by cbv⟩
  have declares : (Line.classify remembered).declaration? = some ("A[H]", none) := by cbv
  obtain ⟨before, after, full, ran, ranOn, named, adds, -⟩ :=
    declaration_repeated (by decide) declares once twice
  exact ⟨a, b, once, twice, ⟨kinds, kept⟩, before, after, full, ran, ranOn, named,
    (adds.mp kept).imp_right And.right⟩

/-- A fork that is written as a start. -/
def forkedStart : String :=
  "state [*] <<fork>>"

/-- A nickname for its own history. -/
def ownHistory : String :=
  "state \"G[H]\" as G"

/-- Declared again, either of them is created again. -/
theorem misread_not_repeatable :
    (∃ a b, analyze {} ("" ++ "\n" ++ forkedStart) = .ok a ∧
      analyze {} ("" ++ "\n" ++ forkedStart ++ "\n" ++ forkedStart) = .ok b ∧
      a.states.map (·.id) = [1] ∧ b.states.map (·.id) = [1, 2]) ∧
    ∃ a b, analyze {} ("" ++ "\n" ++ ownHistory) = .ok a ∧
      analyze {} ("" ++ "\n" ++ ownHistory ++ "\n" ++ ownHistory) = .ok b ∧
      a.states.map (·.id) = [1] ∧ b.states.map (·.id) = [1, 2] := by
  constructor
  · exact ⟨_, _, rfl, rfl, rfl, rfl⟩
  · exact ⟨_, _, rfl, rfl, rfl, rfl⟩

end Statechart
