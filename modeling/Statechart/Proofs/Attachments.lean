import Mathlib
import Statechart.Proofs.Moves

/-! What is said about a state. A text is attached on two kinds of lines, and on either the name before it
says to which state. So the texts that were attached during a reading are one list with a state for each text,
and what a state carries in the end are its own texts from that list, in order. The separator stands between
texts, except that empty texts leave no trace as long as there was nothing before them. -/
namespace Statechart

/-- Texts with a separator between them. Empty texts do not count before the first one that is not empty, and
like any other text after it. -/
def joined (separator : String) (texts : List String) : String :=
  separator.intercalate (texts.dropWhile (· == ""))

theorem joined_concat (separator : String) (texts : List String) (text : String) :
    joined separator (texts ++ [text]) =
      if joined separator texts = "" then text else joined separator texts ++ separator ++ text := by
  unfold joined
  rw [List.dropWhile_append]
  cases counted : texts.dropWhile (· == "") with
  | nil =>
    by_cases empty : text = "" <;> simp [empty]
  | cons first rest =>
    -- The first text that counts is not empty, so neither is anything that begins with it.
    have written : first ≠ "" := by
      have stops := List.head?_dropWhile_not (· == "") texts
      simpa [counted] using stops
    have visible : separator.intercalate (first :: rest) ≠ "" := by
      cases rest with
      | nil => simpa using written
      | cons second rest => simp [String.intercalate_cons_cons, written]
    rw [if_neg (by simp), if_neg visible,
      String.intercalate_append_of_ne_nil (List.cons_ne_nil _ _) (List.cons_ne_nil _ _),
      String.intercalate_singleton]

/-- The texts of one state among those of all states. -/
def textsFor (id : StateId) (attached : List (StateId × String)) : List String :=
  (attached.filter (·.1 == id)).map (·.2)

theorem textsFor_concat (id : StateId) (attached : List (StateId × String)) (there : StateId)
    (text : String) : textsFor id (attached ++ [(there, text)]) =
      if there = id then textsFor id attached ++ [text] else textsFor id attached := by
  by_cases here : there = id <;> simp [textsFor, here]

namespace Reading

variable {o : Options} {r next : Reading} {number : Nat} {line : Line} {id : StateId} {text : String}
  {attached : List (StateId × String)}

/-- The text that a line attaches where it is read, with the state that gets it. A declaration creates that
state if there is none; a line that is only a text needs one that is there. -/
def attaches? (o : Options) (r : Reading) (number : Nat) : Line → Option (StateId × String)
  | .simple name (some text) =>
    match r.obtain o number name .declaration none with
    | .ok (id, _) => some (id, text)
    | .error _ => none
  | .content name text => (r.draft.resolve o.identity name .declaration).id?.map fun id => (id, text)
  | _ => none

/-- The texts that lines attach one after the other, each with the state that gets it. -/
def attachments (o : Options) (r : Reading) : List (Line × Nat) → List (StateId × String)
  | [] => []
  | (line, number) :: later =>
    (r.attaches? o number line).toList ++
      match r.step o number line with
      | .ok next => next.attachments o later
      | .error _ => []

/-- The states carry what was attached to them, and nothing else. -/
structure Carries (o : Options) (r : Reading) (attached : List (StateId × String)) : Prop where
  numbered : r.draft.registry.Numbered
  /-- Texts were attached to states that exist. -/
  known : ∀ entry ∈ attached, r.draft.registry.Known entry.1
  content : ∀ s ∈ r.draft.registry.states, s.content = joined o.separator (textsFor s.id attached)

namespace Carries

theorem start (o : Options) (startingId : StateId) : (start startingId).Carries o [] where
  numbered := Registry.numbered_empty startingId
  known _ member := nomatch member
  content _ member := nomatch member

/-- Nothing can have been attached to a number that was not handed out. -/
theorem push (carries : r.Carries o attached) (name : String) (kind : Kind) (owner : Scope) :
    (r.push name kind owner).Carries o attached where
  numbered := carries.numbered.push name kind owner
  known entry member := (carries.known entry member).push name kind owner
  content s member := by
    rcases List.mem_append.mp member with old | fresh
    · exact carries.content s old
    · obtain rfl := List.mem_singleton.mp fresh
      have none : textsFor (r.draft.registry.lastId + 1) attached = [] := by
        rw [textsFor, List.map_eq_nil_iff, List.filter_eq_nil_iff]
        intro entry member
        have bound := (carries.numbered.known_iff.mp (carries.known entry member)).2
        simp only [beq_iff_eq]
        lia
      simp [State.blank, none, joined]

theorem annotate (carries : r.Carries o attached) (known : r.draft.registry.Known id) :
    (r.annotate o id text).Carries o (attached ++ [(id, text)]) where
  numbered := carries.numbered.modify id fun _ => rfl
  known entry member := by
    rcases List.mem_append.mp member with old | fresh
    · exact (carries.known entry old).modify id fun _ => rfl
    · obtain rfl := List.mem_singleton.mp fresh
      exact known.modify id fun _ => rfl
  content s member := by
    simp only [Reading.annotate, carries.numbered.modify_states] at member
    obtain ⟨before, there, rfl⟩ := List.mem_map.mp member
    have content := carries.content before there
    by_cases here : before.id = id
    · rw [if_pos here, State.annotate, content, textsFor_concat, if_pos here.symm, joined_concat]
    · rw [if_neg here, content, textsFor_concat, if_neg (Ne.symm here)]

theorem addTransition (carries : r.Carries o attached) (t : Transition) :
    (r.addTransition t).Carries o attached := by
  rw [addTransition_eq]
  exact {
    numbered := carries.numbered.modify t.source fun _ => rfl
    known := fun entry member => (carries.known entry member).modify t.source fun _ => rfl
    content := fun s member => by
      obtain ⟨before, there, rfl | rfl⟩ := Registry.exists_of_mem_modify member
      · exact carries.content _ there
      · exact carries.content before there }

/-- Where no state changes, nothing that it carries does. -/
theorem of_registry_eq (carries : r.Carries o attached)
    (same : next.draft.registry = r.draft.registry) : next.Carries o attached := by
  obtain ⟨numbered, known, content⟩ := carries
  rw [← same] at numbered known content
  exact ⟨numbered, known, content⟩

theorem introduce (carries : r.Carries o attached) (number : Nat) (full nickname : String) :
    (r.introduce number full nickname).2.Carries o attached := by
  apply carries.of_registry_eq
  obtain ⟨-, result⟩ | ⟨-, result⟩ | ⟨existing, -, -, result⟩ :=
    r.introduce_cases number full nickname <;> rw [result] <;> rfl

theorem obtain {raw : String} {role : Role} {kind : Option Kind} (carries : r.Carries o attached)
    (ran : r.obtain o number raw role kind = .ok (id, next)) :
    next.Carries o attached ∧ next.draft.registry.Known id := by
  rcases obtain_eq_ok_iff.mp ran with ⟨found, rfl⟩ | ⟨place, -, -, rfl, rfl⟩
  · exact ⟨carries, Draft.known_of_resolve found⟩
  · exact ⟨carries.push .., _, List.mem_concat_self, rfl⟩

/-- A line that is read attaches its text to the state it is for, and any other line attaches nothing. -/
theorem step (carries : r.Carries o attached) (ran : r.step o number line = .ok next) :
    next.Carries o (attached ++ (r.attaches? o number line).toList) := by
  cases step_reads ran with
  | described obtained =>
    obtain ⟨carried, known⟩ := carries.obtain obtained
    simpa [attaches?, obtained] using carried.annotate known
  | @content name text id found =>
    have carried : (r.annotate o id text).Carries o _ := carries.annotate (Draft.known_of_resolve found)
    simpa [attaches?, found, Resolution.id?] using carried
  | unresolved missing =>
    suffices carried : (r.report number _).Carries o attached by
      simpa [attaches?, missing, Resolution.id?] using carried
    exact carries.of_registry_eq rfl
  | composite obtained =>
    suffices carried : (Reading.enter _ _).Carries o attached by simpa [attaches?] using carried
    exact (carries.obtain obtained).1.of_registry_eq rfl
  | compositeAliased obtained =>
    suffices carried : (Reading.enter _ _).Carries o attached by simpa [attaches?] using carried
    exact ((carries.introduce number _ _).obtain obtained).1.of_registry_eq rfl
  | close =>
    suffices carried : r.leave.Carries o attached by simpa [attaches?] using carried
    exact carries.of_registry_eq rfl
  | aliased agrees obtained => simpa [attaches?] using ((carries.introduce number _ _).obtain obtained).1
  | refused => simpa [attaches?] using carries.introduce number _ _
  | stereotyped obtained | simple obtained => simpa [attaches?] using (carries.obtain obtained).1
  | transition obtainedSource obtainedTarget =>
    simpa [attaches?] using ((carries.obtain obtainedSource).1.obtain obtainedTarget).1.addTransition _
  | ignored => simpa [attaches?] using carries

theorem run {lines : List (Line × Nat)} (carries : r.Carries o attached)
    (ran : run o r lines = .ok next) : next.Carries o (attached ++ r.attachments o lines) := by
  induction lines generalizing r attached with
  | nil =>
    cases ran
    simpa [attachments] using carries
  | cons entry later ih =>
    obtain ⟨line, number⟩ := entry
    obtain ⟨between, first, rest⟩ := bind_eq_ok_iff.mp ran
    have first : r.step o number line = .ok between := first
    have onward := ih (carries.step first) rest
    simpa [attachments, first] using onward

end Carries

end Reading

/-- What a state carries in the end are the texts that lines attached to it, in the order of the lines. The
separator stands between them from the first one on that is not empty. -/
theorem content_accumulates {o : Options} {text : String} {a : Analysis} (read : analyze o text = .ok a) :
    ∀ s ∈ a.states, s.content = joined o.separator (textsFor s.id
      ((Reading.start o.startingId.toNat).attachments o (numberedLines text))) := by
  obtain ⟨r, ran, rfl⟩ := analyze_eq_ok_iff.mp read
  exact ((Reading.Carries.start o _).run ran).content

/-- Texts for two states in turn, some of them empty, and one for a state that there is not. -/
def remarks : String :=
  "state A :\nstate \"Long\" as L\nL : one\nA :\nGone : lost\nA : first\nA :\nLong : two\nstate A : last"

theorem content_accumulates_remarks :
    ∃ a, analyze { onUnresolved := .skip, separator := "; " } remarks = .ok a ∧
      a.states.map (fun s => (s.id, s.content)) = [(1, "first; ; last"), (2, "one; two")] ∧
      ∀ s ∈ a.states, s.content = joined "; " (textsFor s.id
        [(1, ""), (2, "one"), (1, ""), (1, "first"), (1, ""), (2, "two"), (1, "last")]) := by
  have read : analyze { onUnresolved := .skip, separator := "; " } remarks = .ok
      { states := [⟨1, "A", .plain, .root, "first; ; last", []⟩,
          ⟨2, "Long", .plain, .root, "one; two", []⟩]
        diagnostics := [⟨5, .unresolvedReference "Gone"⟩]
        lastId := 2 } := by decide +kernel
  have attached : (Reading.start 0).attachments { onUnresolved := .skip, separator := "; " }
      (numberedLines remarks) =
        [(1, ""), (2, "one"), (1, ""), (1, "first"), (1, ""), (2, "two"), (1, "last")] := by
    decide +kernel
  refine ⟨_, read, rfl, ?_⟩
  rw [← attached]
  exact content_accumulates read

end Statechart
