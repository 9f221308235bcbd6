import Statechart.Proofs.EmptiedLines
import Statechart.Proofs.ExactReports

/-! Texts say something about states and do nothing to them. What a name refers to does not depend on
the texts that were attached to states, and a text never creates a state, never opens or closes a scope
and never introduces a nickname. So two readings of the same lines that differ in their texts go on
together to the same states, whatever stands between texts and even if one of them leaves the lines
out on which the texts are. -/
namespace Statechart

/-- How two computations end alike: both go on, with results that are related, or both fail for the
same reason. -/
inductive Alike {ε α β : Type} (related : α → β → Prop) : Except ε α → Except ε β → Prop where
  | goesOn {a : α} {b : β} (result : related a b) : Alike related (.ok a) (.ok b)
  | fails (reason : ε) : Alike related (.error reason) (.error reason)

theorem Alike.bind {ε α β γ δ : Type} {before : α → β → Prop} {after : γ → δ → Prop}
    {x : Except ε α} {y : Except ε β} {f : α → Except ε γ} {g : β → Except ε δ}
    (first : Alike before x y) (next : ∀ a b, before a b → Alike after (f a) (g b)) :
    Alike after (x >>= f) (y >>= g) := by
  cases first with
  | goesOn result => exact next _ _ result
  | fails reason => exact .fails reason

theorem Alike.imp {ε α β : Type} {related weaker : α → β → Prop} {x : Except ε α} {y : Except ε β}
    (alike : Alike related x y) (weaken : ∀ a b, related a b → weaker a b) : Alike weaker x y := by
  cases alike with
  | goesOn result => exact .goesOn (weaken _ _ result)
  | fails reason => exact .fails reason

/-- What is related are the results of the two. -/
theorem Alike.results {ε α β : Type} {related : α → β → Prop} {x : Except ε α} {y : Except ε β}
    (alike : Alike related x y) : Alike (fun a b => related a b ∧ x = .ok a ∧ y = .ok b) x y := by
  cases alike with
  | goesOn result => exact .goesOn ⟨result, rfl, rfl⟩
  | fails reason => exact .fails reason

/-- A state without what is said about it. -/
def State.bare (s : State) : State :=
  { s with content := "" }

namespace Registry

variable {r : Registry}

/-- The states without what is said about them. -/
def bare (r : Registry) : Registry :=
  { r with states := r.states.map State.bare }

@[simp] theorem bare_lastId (r : Registry) : r.bare.lastId = r.lastId := by
  simp only [lastId, bare, List.length_map]

theorem bare_push (r : Registry) (name : String) (kind : Kind) (owner : Scope) :
    (r.push name kind owner).bare = r.bare.push name kind owner := by
  simp only [push, bare_lastId]
  simp [bare, State.blank, State.bare]

/-- A change that does not look at texts can be made before or after they are taken away. -/
theorem bare_modify (r : Registry) (id : StateId) (change changeBare : State → State)
    (blind : ∀ s : State, (change s).bare = changeBare s.bare) :
    (r.modify id change).bare = r.bare.modify id changeBare := by
  unfold modify
  rw [show r.bare.position? id = r.position? id from rfl]
  cases r.position? id with
  | none => rfl
  | some position =>
    simp only [bare, Registry.mk.injEq, true_and]
    apply List.ext_getElem?
    intro i
    simp only [List.getElem?_modify, List.getElem?_map]
    cases r.states[i]? with
    | none => rfl
    | some s =>
      by_cases here : position = i
      · simp [here, blind]
      · simp [here]

/-- Nothing but texts is changed where a text is attached. -/
theorem bare_annotate (r : Registry) (number : StateId) (text separator : String) :
    (r.modify number fun s => s.annotate text separator).bare = r.bare := by
  rw [r.bare_modify number (fun s => s.annotate text separator) id fun _ => rfl]
  rcases r.bare.modify_eq number id with same | ⟨position, same⟩
  · exact same
  · rw [same, List.modify_id]

/-- What is looked for without looking at texts is found without them. -/
theorem bare_find? {fits : State → Bool} (blind : ∀ s : State, fits s.bare = fits s) (r : Registry) :
    r.bare.states.find? fits = (r.states.find? fits).map State.bare := by
  have composed : fits ∘ State.bare = fits := funext blind
  rw [bare, List.find?_map, composed]

end Registry

namespace Draft

variable {d : Draft} {identity : Identity}

/-- A diagram without what is said about its states. -/
def bare (d : Draft) : Draft :=
  { d with registry := d.registry.bare }

theorem bare_findPlain? (d : Draft) (identity : Identity) (name : String) :
    d.bare.findPlain? identity name = (d.findPlain? identity name).map State.bare := by
  cases identity with
  | global => exact d.registry.bare_find? fun _ => rfl
  | lexical =>
    simp only [findPlain?, List.map_findSome?]
    congr 1
    funext scope
    exact d.registry.bare_find? fun _ => rfl

theorem bare_request (d : Draft) (identity : Identity) (written : String) :
    d.bare.request identity written = d.request identity written := by
  unfold request
  cases Name.ofString written with
  | initial | plain => rfl
  | history owner marker =>
    cases owner with
    | none => rfl
    | some owner =>
      dsimp only
      rw [bare_findPlain?, show d.bare.nicknames = d.nicknames from rfl]
      cases d.findPlain? identity (d.nicknames.fullName owner) <;> rfl

theorem bare_search (d : Draft) (identity : Identity) (role : Role) (q : Request) :
    d.bare.search identity role q = (d.search identity role q).map State.bare := by
  cases q with
  | initial =>
    have initials : d.bare.registry.initialsIn d.nesting.scope =
        (d.registry.initialsIn d.nesting.scope).map State.bare := List.filter_map
    rw [search, search, show d.bare.nesting = d.nesting from rfl, initials, List.getElem?_map]
  | history name scope => exact d.registry.bare_find? fun _ => rfl
  | plain name => exact d.bare_findPlain? identity name

/-- What a name refers to does not depend on texts. -/
theorem bare_resolve (d : Draft) (identity : Identity) (raw : String) (role : Role) :
    d.bare.resolve identity raw role = d.resolve identity raw role := by
  rw [resolve_eq_answer, resolve_eq_answer, bare_request, show d.bare.fullName raw = d.fullName raw from rfl,
    answer, answer, bare_search]
  cases d.search identity role (d.request identity (d.fullName raw)) <;> rfl

/-- Neither does what is wrong with a line. -/
theorem bare_issue? (d : Draft) (identity : Identity) (line : Line) :
    d.bare.issue? identity line = d.issue? identity line := by
  cases line with
  | composite name nickname => cases nickname <;> rfl
  | content name text =>
    simp only [issue?, bare_resolve]
  | _ => rfl

end Draft

namespace Reading

variable {o o' : Options} {r s : Reading} {number : Nat} {line : Line}

/-- Two readings have come to the same diagram, but for the texts. -/
structure SameBare (r s : Reading) : Prop where
  nicknames : r.draft.nicknames = s.draft.nicknames
  nesting : r.draft.nesting = s.draft.nesting
  registry : r.draft.registry.bare = s.draft.registry.bare

namespace SameBare

theorem draft_bare_eq (same : r.SameBare s) : r.draft.bare = s.draft.bare := by
  unfold Draft.bare
  rw [Draft.mk.injEq]
  exact ⟨same.nicknames, same.nesting, same.registry⟩

theorem lastId_eq (same : r.SameBare s) : r.draft.registry.lastId = s.draft.registry.lastId := by
  rw [← Registry.bare_lastId, same.registry, Registry.bare_lastId]

theorem resolve_eq (same : r.SameBare s) (identity : Identity) (raw : String) (role : Role) :
    r.draft.resolve identity raw role = s.draft.resolve identity raw role := by
  rw [← Draft.bare_resolve, same.draft_bare_eq, Draft.bare_resolve]

theorem reports_eq (same : r.SameBare s) (identity : o.identity = o'.identity) (number : Nat)
    (line : Line) : r.reports o number line = s.reports o' number line := by
  unfold reports
  rw [← Draft.bare_issue?, same.draft_bare_eq, Draft.bare_issue?, identity]

theorem push (same : r.SameBare s) (name : String) (kind : Kind) (owner : Scope) :
    (r.push name kind owner).SameBare (s.push name kind owner) where
  nicknames := same.nicknames
  nesting := same.nesting
  registry := by
    simp only [Reading.push, Draft.push, Registry.bare_push, same.registry]

/-- A text can be attached in either. -/
theorem annotate (same : r.SameBare s) (id : StateId) (text text' : String) :
    (r.annotate o id text).SameBare (s.annotate o' id text') where
  nicknames := same.nicknames
  nesting := same.nesting
  registry := by
    simp only [Reading.annotate, Registry.bare_annotate, same.registry]

theorem addTransition (same : r.SameBare s) (t : Transition) :
    (r.addTransition t).SameBare (s.addTransition t) := by
  have listed (registry : Registry) : (registry.modify t.source (·.addTransition t)).bare =
      registry.bare.modify t.source (·.addTransition t) := registry.bare_modify _ _ _ fun _ => rfl
  rw [addTransition_eq, addTransition_eq]
  exact {
    nicknames := same.nicknames
    nesting := same.nesting
    registry := by simp only [modify, listed, same.registry] }

theorem enter (same : r.SameBare s) (id : StateId) : (r.enter id).SameBare (s.enter id) where
  nicknames := same.nicknames
  nesting := congrArg (·.enter id) same.nesting
  registry := same.registry

theorem leave (same : r.SameBare s) : r.leave.SameBare s.leave where
  nicknames := same.nicknames
  nesting := congrArg (·.leave) same.nesting
  registry := same.registry

theorem introduce (same : r.SameBare s) (number : Nat) (full nickname : String) :
    (r.introduce number full nickname).1 = (s.introduce number full nickname).1 ∧
      (r.introduce number full nickname).2.SameBare (s.introduce number full nickname).2 := by
  unfold Reading.introduce
  rw [same.nicknames]
  cases s.draft.nicknames.introduce full nickname with
  | ok nicknames => exact ⟨rfl, rfl, same.nesting, same.registry⟩
  | error issue => exact ⟨rfl, same.nicknames, same.nesting, same.registry⟩

theorem obtain (same : r.SameBare s) (identity : o.identity = o'.identity) (number : Nat)
    (raw : String) (role : Role) (kind : Option Kind) :
    Alike (fun first second => first.1 = second.1 ∧ first.2.SameBare second.2)
      (r.obtain o number raw role kind) (s.obtain o' number raw role kind) := by
  have resolved := same.resolve_eq o.identity raw role
  cases ran : r.obtain o number raw role kind with
  | ok result =>
    obtain ⟨id, next⟩ := result
    rcases obtain_eq_ok_iff.mp ran with ⟨found, rfl⟩ | ⟨place, missing, left, rfl, rfl⟩
    · have ranToo : s.obtain o' number raw role kind = .ok (id, s) := by
        rw [resolved, identity] at found
        exact obtain_eq_ok_iff.mpr (.inl ⟨found, rfl⟩)
      rw [ranToo]
      exact .goesOn ⟨rfl, same⟩
    · have ranToo : s.obtain o' number raw role kind =
          .ok (s.draft.registry.lastId + 1, s.push place.name (kind.getD place.kind) place.owner) := by
        rw [resolved, identity] at missing
        rw [same.lastId_eq] at left
        exact obtain_eq_ok_iff.mpr (.inr ⟨place, missing, left, rfl, rfl⟩)
      rw [ranToo]
      exact .goesOn ⟨congrArg (· + 1) same.lastId_eq, same.push _ _ _⟩
  | error d =>
    obtain ⟨place, missing, full, rfl⟩ := obtain_eq_error_iff.mp ran
    have failedToo : s.obtain o' number raw role kind =
        .error { line := number, issue := .identifierOverflow s.draft.registry.lastId } := by
      rw [resolved, identity] at missing
      rw [same.lastId_eq] at full
      exact obtain_eq_error_iff.mpr ⟨place, missing, full, rfl⟩
    rw [failedToo, same.lastId_eq]
    exact .fails _

end SameBare

/-- A line does the same to two readings that differ in their texts. -/
theorem step_sameBare (same : r.SameBare s) (identity : o.identity = o'.identity)
    (policy : o.onUnresolved = o'.onUnresolved) (number : Nat) (line : Line) :
    Alike SameBare (r.step o number line) (s.step o' number line) := by
  cases line with
  | composite name nickname =>
    have entered {r s : Reading} (same : r.SameBare s) :
        Alike SameBare (r.obtain o number name .declaration none >>= fun x => pure (x.2.enter x.1))
          (s.obtain o' number name .declaration none >>= fun x => pure (x.2.enter x.1)) := by
      refine (same.obtain identity number name .declaration none).bind ?_
      rintro ⟨id, r⟩ ⟨_, s⟩ ⟨rfl, same⟩
      exact .goesOn (same.enter id)
    cases nickname with
    | none => exact entered same
    | some nickname => exact entered (same.introduce number name nickname).2
  | close => exact .goesOn same.leave
  | aliased name nickname stereotype =>
    obtain ⟨accepted, introduced⟩ := same.introduce number name nickname
    simp only [step]
    generalize r.introduce number name nickname = first at accepted introduced
    generalize s.introduce number name nickname = second at accepted introduced
    obtain ⟨free, r⟩ := first
    obtain ⟨_, s⟩ := second
    obtain rfl := accepted
    cases free with
    | true =>
      refine (introduced.obtain identity number name .declaration _).bind ?_
      rintro ⟨_, r⟩ ⟨_, s⟩ ⟨-, same⟩
      exact .goesOn same
    | false => exact .goesOn introduced
  | stereotyped name stereotype =>
    refine (same.obtain identity number name .declaration _).bind ?_
    rintro ⟨_, r⟩ ⟨_, s⟩ ⟨-, same⟩
    exact .goesOn same
  | simple name content =>
    refine (same.obtain identity number name .declaration none).bind ?_
    rintro ⟨id, r⟩ ⟨_, s⟩ ⟨rfl, same⟩
    cases content with
    | none => exact .goesOn same
    | some text => exact .goesOn (same.annotate id text text)
  | transition source target event =>
    refine (same.obtain identity number source .source none).bind ?_
    rintro ⟨source, r⟩ ⟨_, s⟩ ⟨rfl, same⟩
    refine (same.obtain identity number target .target none).bind ?_
    rintro ⟨target, r⟩ ⟨_, s⟩ ⟨rfl, same⟩
    exact .goesOn (same.addTransition _)
  | content name text =>
    simp only [step, same.resolve_eq, identity, policy]
    cases (s.draft.resolve o'.identity name .declaration).id? with
    | some id => exact .goesOn (same.annotate id text text)
    | none =>
      cases o'.onUnresolved with
      | abort => exact .fails _
      | skip => exact .goesOn ⟨same.nicknames, same.nesting, same.registry⟩
  | ignored => exact .goesOn same

/-- A text for a state changes nothing but texts, if one for an unknown state is passed over. -/
theorem step_content (policy : o.onUnresolved = .skip) (r : Reading) (number : Nat)
    (name text : String) :
    ∃ next, r.step o number (.content name text) = .ok next ∧ next.SameBare r := by
  simp only [step, policy]
  cases (r.draft.resolve o.identity name .declaration).id? with
  | some id =>
    refine ⟨_, rfl, rfl, rfl, ?_⟩
    simp only [annotate, Registry.bare_annotate]
  | none => exact ⟨_, rfl, rfl, rfl, rfl⟩

/-- Lines do the same to two readings that differ in their texts, even if lines with texts are left
out. What is lost are the reports on those lines. -/
theorem run_sameBare {dropped : Nat → Bool} {lines : List (Line × Nat)}
    (identity : o.identity = o'.identity) (policy : o.onUnresolved = o'.onUnresolved)
    (idle : ∀ entry ∈ lines, dropped entry.2 → entry.1.isContent ∧ o.onUnresolved = .skip)
    (same : r.SameBare s) (reported : s.diagnostics = r.diagnostics.filter fun d => !dropped d.line) :
    Alike (fun r s => r.SameBare s ∧ s.diagnostics = r.diagnostics.filter fun d => !dropped d.line)
      (run o r lines) (run o' s (lines.map (cleared dropped))) := by
  induction lines generalizing r s with
  | nil => exact .goesOn ⟨same, reported⟩
  | cons entry later ih =>
    obtain ⟨line, number⟩ := entry
    obtain ⟨idleHere, idleLater⟩ := List.forall_mem_cons.mp idle
    rw [List.map_cons, run_cons]
    by_cases drop : dropped number
    · obtain ⟨content, skip⟩ := idleHere drop
      cases line with
      | content name text =>
        obtain ⟨next, stepped, untouched⟩ := step_content skip r number name text
        have lost : (r.reports o number (.content name text)).filter (fun d => !dropped d.line) = [] := by
          rw [List.filter_eq_nil_iff]
          intro d member
          simp [(mem_reports_iff.mp member).1, drop]
        rw [cleared, if_pos drop, stepped]
        apply ih idleLater
        · exact ⟨untouched.nicknames.trans same.nicknames, untouched.nesting.trans same.nesting,
            untouched.registry.trans same.registry⟩
        · show s.diagnostics = _
          rw [step_diagnostics stepped, List.filter_append, lost, List.append_nil]
          exact reported
      | _ => cases content
    · have kept : (r.reports o number line).filter (fun d => !dropped d.line) =
          r.reports o number line := by
        rw [List.filter_eq_self]
        intro d member
        simp [(mem_reports_iff.mp member).1, drop]
      rw [cleared, if_neg drop, run_cons]
      refine (step_sameBare same identity policy number line).results.bind ?_
      rintro next next' ⟨sameNext, stepped, stepped'⟩
      apply ih idleLater sameNext
      rw [step_diagnostics stepped, step_diagnostics stepped', reported,
        ← same.reports_eq identity, List.filter_append, kept]

end Reading

/-- Two readings of a diagram that differ in what stands between texts, and one of them in lines with
texts that are left out, come to the same. -/
private theorem analyze_alike (o o' : Options) (dropped : Nat → Bool) (text : String)
    (starting : o.startingId = o'.startingId) (identity : o.identity = o'.identity)
    (policy : o.onUnresolved = o'.onUnresolved)
    (idle : ∀ entry ∈ numberedLines text,
      dropped entry.2 → entry.1.isContent ∧ o.onUnresolved = .skip) :
    Alike (fun a b : Analysis => b.lastId = a.lastId ∧
        b.states.map State.bare = a.states.map State.bare ∧
        b.diagnostics = a.diagnostics.filter fun d => !dropped d.line)
      (analyze o text)
      (Reading.run o' (.start o'.startingId.toNat) ((numberedLines text).map (cleared dropped)) >>=
        fun r => pure r.toAnalysis) := by
  have start : (Reading.start o.startingId.toNat).SameBare (.start o'.startingId.toNat) := by
    rw [starting]
    exact ⟨rfl, rfl, rfl⟩
  refine (Reading.run_sameBare identity policy idle start rfl).bind ?_
  rintro r s ⟨same, reported⟩
  exact .goesOn ⟨same.lastId_eq.symm, (congrArg Registry.states same.registry).symm, reported⟩

/-- The texts for states have no influence on anything else. If texts for unknown states are passed
over, a diagram without its lines with texts has the same states under the same numbers, with the same
transitions, and the same reports on the other lines; or both run out of numbers on the same line. And
what stands between texts is found nowhere but between texts. -/
theorem structure_ignores_contents (o : Options) (text separator : String) :
    Alike (fun a b : Analysis => b.lastId = a.lastId ∧
        b.states.map State.bare = a.states.map State.bare ∧
        b.diagnostics = a.diagnostics.filter fun d => !lineIs text Line.isContent d.line)
      (analyze o.skipping text)
      (analyze o.skipping (withoutLines (lineIs text Line.isContent) text)) ∧
    (∀ d, analyze o.skipping text = .error d → d.issue = .identifierOverflow StateId.max) ∧
    Alike (fun a b : Analysis => b.lastId = a.lastId ∧ b.diagnostics = a.diagnostics ∧
        b.states.map State.bare = a.states.map State.bare)
      (analyze o text) (analyze { o with separator } text) := by
  refine ⟨?_, ?_, ?_⟩
  · have idle : ∀ entry ∈ numberedLines text, lineIs text Line.isContent entry.2 →
        entry.1.isContent ∧ o.skipping.onUnresolved = .skip := by
      rintro ⟨line, number⟩ member content
      rw [lineIs_of_mem member] at content
      exact ⟨content, rfl⟩
    have alike := analyze_alike o.skipping o.skipping _ text rfl rfl rfl idle
    rw [← Reading.run_withoutLines] at alike
    exact alike
  · intro d failed
    rcases cause_of_error (analyze_eq_error_iff.mp failed) with ⟨_, -, policy, -⟩ | exhausted
    · cases policy
    · exact exhausted
  · have none : ∀ entry ∈ numberedLines text, (fun _ => false) entry.2 →
        entry.1.isContent ∧ o.onUnresolved = .skip := by simp
    have whole : (numberedLines text).map (cleared fun _ => false) = numberedLines text :=
      List.map_id'' (fun _ => rfl) _
    have alike := analyze_alike o { o with separator } (fun _ => false) text rfl rfl rfl none
    rw [whole] at alike
    exact alike.imp fun a b ⟨last, states, reported⟩ => ⟨last, by simpa using reported, states⟩

end Statechart
