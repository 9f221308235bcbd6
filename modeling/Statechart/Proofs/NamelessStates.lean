import Statechart.Proofs.EmptiedLines
import Statechart.Proofs.ExactReports

/-! States without a name. A state is created under the name that was asked for, without the blanks around
it, so it has no name if nothing but blanks was asked for. No transition does that and no nickname is empty,
but a declaration can: blanks in quotation marks are a name that was written, and nothing is left of it. So a
diagram has a state without a name exactly if one of its lines declares one and is not passed over. -/
namespace Statechart

namespace Line

/-- A line declares a state under a name of which nothing is left without its blanks. -/
def IsNameless (line : Line) : Prop :=
  ∃ name, line.declaredName? = some name ∧ Text.trim name.toList = []

theorem isNameless_iff {line : Line} {name : String} (declares : line.declaredName? = some name) :
    line.IsNameless ↔ Text.trim name.toList = [] := by
  simp [IsNameless, declares]

/-- Blanks that are declared as a name stand in quotation marks. -/
theorem quoted_of_isNameless {line : String} (nameless : (classify line).IsNameless) :
    ∃ blanks, Text.Blanks blanks ∧ '"' :: blanks ++ ['"'] <:+: line.toList := by
  obtain ⟨name, declares, blank⟩ := nameless
  obtain ⟨before, after, opening, closing, shape⟩ := Text.exists_margins name.toList
  have blanks : Text.Blanks name.toList := by
    rw [shape, blank, List.append_nil]
    exact List.forall_mem_append.mpr ⟨opening, closing⟩
  have declared := (declared_of_isDeclaration (isDeclaration_of_declaredName declares)).2
  have named : NameIn (Text.trim line.toList) name := declared.nameIn declares
  exact ⟨name.toList, blanks, (named.quoted_of_blank blank).trans (Text.trim_isInfix _)⟩

theorem not_isNameless {line : Line} (silent : line.declaredName? = none) : ¬ line.IsNameless := by
  simp [IsNameless, silent]

end Line

/-- Some state has no name. -/
def Registry.HasNameless (r : Registry) : Prop :=
  ∃ s ∈ r.states, s.name = ""

theorem Registry.modify_hasNameless (r : Registry) (id : StateId) (change : State → State)
    (renames : ∀ s, (change s).name = s.name) : (r.modify id change).HasNameless ↔ r.HasNameless := by
  unfold Registry.HasNameless
  constructor
  · rintro ⟨s, member, empty⟩
    obtain ⟨before, there, rfl | rfl⟩ := Registry.exists_of_mem_modify member
    · exact ⟨_, there, empty⟩
    · exact ⟨before, there, (renames before).symm.trans empty⟩
  · rintro ⟨s, member, empty⟩
    obtain ⟨i, held⟩ := List.mem_iff_getElem?.mp member
    obtain ⟨after, there, rfl | rfl⟩ := Registry.exists_getElem?_modify held id change
    · exact ⟨_, List.mem_of_getElem? there, empty⟩
    · exact ⟨_, List.mem_of_getElem? there, (renames s).trans empty⟩

/-- A name is read as an empty one exactly if nothing but blanks was written. -/
theorem Name.ofString_eq_plain_empty_iff {written : String} :
    ofString written = .plain "" ↔ Text.trim written.toList = [] := by
  constructor
  · intro read
    have empty := congrArg String.toList (eq_trim_of_plain read)
    simpa using empty
  · intro blank
    exact ofString_eq_plain_iff.mpr ⟨by rw [blank], by decide, rfl⟩

/-- Only a plain name can be empty. -/
theorem Request.Readable.eq_plain {q : Request} (readable : q.Readable) (empty : q.name = "") :
    q = .plain "" := by
  cases q with
  | initial => exact absurd empty (by decide)
  | history name scope =>
    obtain rfl : name = "" := empty
    obtain ⟨owner, marker, read⟩ := readable
    cases read
  | plain name =>
    obtain rfl : name = "" := empty
    rfl

/-- A request is for a state without a name exactly if nothing but blanks was written. -/
theorem Draft.request_name_eq_empty_iff (d : Draft) (identity : Identity) (written : String) :
    (d.request identity written).name = "" ↔ Text.trim written.toList = [] := by
  rw [← Name.ofString_eq_plain_empty_iff]
  constructor
  · intro empty
    have plain := (d.request_readable identity written).eq_plain empty
    obtain ⟨name, read⟩ := (d.request_kind_eq_plain_iff identity written).mp (by rw [plain]; rfl)
    simp only [request, read, Request.plain.injEq] at plain
    rw [read, plain]
  · intro read
    simp only [request, read]
    rfl

namespace Nicknames

variable {table : Nicknames} {full nickname : String} {reason other : Prop}

/-- The empty word is no nickname, and a nickname stands for blanks only for a reason. -/
structure BlankOnlyIf (table : Nicknames) (reason : Prop) : Prop where
  unnamed : table.get? "" = none
  standing : ∀ nickname full, table.get? nickname = some full → Text.trim full.toList = [] → reason

theorem blankOnlyIf_empty (reason : Prop) : empty.BlankOnlyIf reason where
  unnamed := rfl
  standing _ _ bound := nomatch bound

theorem BlankOnlyIf.mono (kept : table.BlankOnlyIf reason) (weaker : reason → other) :
    table.BlankOnlyIf other where
  unnamed := kept.unnamed
  standing nickname full bound blank := weaker (kept.standing nickname full bound blank)

/-- One more nickname stands for blanks if it was introduced for blanks. -/
theorem BlankOnlyIf.bind (kept : table.BlankOnlyIf reason) (word : nickname ≠ "") :
    (table.bind full nickname).BlankOnlyIf
      (reason ∨ table.get? nickname = none ∧ Text.trim full.toList = []) where
  unnamed := by
    rw [get?_bind, if_neg (Ne.symm word)]
    exact kept.unnamed
  standing short meant bound blank := by
    rw [get?_bind] at bound
    split at bound
    · cases free : table.get? nickname with
      | none =>
        rw [free] at bound
        cases bound
        exact .inr ⟨rfl, blank⟩
      | some existing =>
        rw [free] at bound
        cases bound
        exact .inl (kept.standing nickname _ free blank)
    · exact .inl (kept.standing short meant bound blank)

end Nicknames

/-- What is written as blanks stays so, and nothing else is replaced by blanks. -/
theorem Draft.trim_fullName_eq_nil_iff {d : Draft} {raw : String} {reason : Prop}
    (kept : d.nicknames.BlankOnlyIf (reason ∨ Text.trim raw.toList = [])) :
    reason ∨ Text.trim (d.fullName raw).toList = [] ↔ reason ∨ Text.trim raw.toList = [] := by
  have replaced : Text.trim raw.toList = [] → d.fullName raw = "" := by
    intro blank
    rw [fullName, blank, Nicknames.fullName, show String.ofList [] = "" from rfl, kept.unnamed]
    rfl
  constructor
  · rintro (held | blank)
    · exact .inl held
    · unfold fullName Nicknames.fullName at blank
      cases bound : d.nicknames.get? (String.ofList (Text.trim raw.toList)) with
      | none =>
        rw [bound, Option.getD_none, String.toList_ofList, Text.trim_trim] at blank
        exact .inr blank
      | some full =>
        rw [bound, Option.getD_some] at blank
        exact kept.standing _ full bound blank
  · rintro (held | blank)
    · exact .inl held
    · rw [replaced blank]
      exact .inr rfl

namespace Reading

variable {o : Options} {r origin next : Reading} {number : Nat} {line : Line} {raw full nickname : String}
  {role : Role} {kind : Option Kind} {id : StateId} {lines : List (Line × Nat)}

/-- Obtaining a name leaves a state without a name if there was one, or if the name is blank. -/
theorem obtain_hasNameless
    (kept : r.draft.nicknames.BlankOnlyIf (r.draft.registry.HasNameless ∨ Text.trim raw.toList = []))
    (ran : r.obtain o number raw role kind = .ok (id, next)) :
    next.draft.registry.HasNameless ↔
      r.draft.registry.HasNameless ∨ Text.trim raw.toList = [] := by
  rw [← Draft.trim_fullName_eq_nil_iff kept, ← r.draft.request_name_eq_empty_iff o.identity]
  rcases obtain_eq_ok_iff.mp ran with ⟨found, rfl⟩ | ⟨place, missing, -, -, rfl⟩
  · obtain ⟨s, hit, -⟩ := Draft.resolve_eq_found_iff.mp found
    obtain ⟨member, named, -⟩ := Draft.search_eq_some hit
    constructor
    · exact .inl
    · rintro (held | empty)
      · exact held
      · exact ⟨s, member, named.trans empty⟩
  · obtain ⟨-, rfl⟩ := Draft.resolve_eq_missing_iff.mp missing
    rw [Request.placement_name]
    simp [Registry.HasNameless, push, Draft.push, State.blank]

/-- A name that is more than blanks adds no state without a name. -/
theorem obtain_written (kept : r.draft.nicknames.BlankOnlyIf r.draft.registry.HasNameless)
    (written : Written raw) (ran : r.obtain o number raw role kind = .ok (id, next)) :
    next.draft.registry.HasNameless ↔ r.draft.registry.HasNameless := by
  have blank : Text.trim raw.toList ≠ [] := by
    rw [written.trim_eq]
    exact written.ne_nil
  rw [obtain_hasNameless (kept.mono .inl) ran, or_iff_left blank]

/-- A nickname is introduced before the name that it stands for is obtained. -/
theorem obtain_introduced {between : Reading} (word : nickname ≠ "")
    (kept : r.draft.nicknames.BlankOnlyIf r.draft.registry.HasNameless)
    (introduced : (r.introduce number full nickname).2 = between)
    (ran : between.obtain o number full role kind = .ok (id, next)) :
    next.draft.registry.HasNameless ↔
      r.draft.registry.HasNameless ∨ Text.trim full.toList = [] := by
  have draft := r.introduce_draft number full nickname
  rw [introduced] at draft
  have bound : between.draft.nicknames.BlankOnlyIf
      (between.draft.registry.HasNameless ∨ Text.trim full.toList = []) := by
    rw [draft]
    exact (kept.bind word).mono (Or.imp_right And.right)
  have obtained := obtain_hasNameless bound ran
  rwa [draft] at obtained

theorem annotate_hasNameless (o : Options) (r : Reading) (id : StateId) (text : String) :
    (r.annotate o id text).draft.registry.HasNameless ↔ r.draft.registry.HasNameless :=
  r.draft.registry.modify_hasNameless id (·.annotate text o.separator) fun _ => rfl

theorem addTransition_hasNameless (r : Reading) (t : Transition) :
    (r.addTransition t).draft.registry.HasNameless ↔ r.draft.registry.HasNameless := by
  rw [addTransition_eq]
  exact r.draft.registry.modify_hasNameless t.source (·.addTransition t) fun _ => rfl

/-- A line that is not passed over adds a state without a name exactly if it declares one. -/
theorem step_hasNameless_of_acts {text : String} (classified : line = Line.classify text)
    (acts : ¬ r.PassesOver o line)
    (kept : r.draft.nicknames.BlankOnlyIf r.draft.registry.HasNameless)
    (ran : r.step o number line = .ok next) :
    next.draft.registry.HasNameless ↔ r.draft.registry.HasNameless ∨ line.IsNameless := by
  have word : ∀ full nickname, line.introduction? = some (full, nickname) → nickname ≠ "" := by
    intro full nickname introduced
    rw [classified] at introduced
    exact (Line.classify_introduces introduced).ne_empty
  cases step_reads ran with
  | composite obtained | stereotyped obtained | simple obtained =>
    rw [Line.isNameless_iff rfl]
    exact (obtain_hasNameless (kept.mono .inl) obtained :)
  | @compositeAliased name nickname id between obtained =>
    rw [Line.isNameless_iff rfl]
    exact (obtain_introduced (word name nickname rfl) kept rfl obtained :)
  | @aliased name nickname stereotype id next agrees obtained =>
    rw [Line.isNameless_iff rfl]
    exact obtain_introduced (word name nickname rfl) kept rfl obtained
  | @refused name nickname stereotype conflicts =>
    refine absurd ⟨?_, rfl⟩ acts
    obtain ⟨-, result⟩ | ⟨-, result⟩ | ⟨existing, bound, different, -⟩ :=
      r.introduce_cases number name nickname
    · simp [result] at conflicts
    · simp [result] at conflicts
    · exact ⟨_, Draft.issue?_eq_some_iff.mpr
        (.inl ⟨nickname, existing, name, rfl, bound, different, rfl⟩)⟩
  | @described name remark id named obtained =>
    rw [Line.isNameless_iff rfl]
    exact (annotate_hasNameless o named id remark).trans (obtain_hasNameless (kept.mono .inl) obtained)
  | @transition source target event leaving entering left both obtainedSource obtainedTarget =>
    rw [or_iff_left (Line.not_isNameless rfl)]
    obtain ⟨start, ended⟩ := Line.written_of_classify_transition classified.symm
    have first := obtain_written kept start obtainedSource
    have keptLeft : left.draft.nicknames.BlankOnlyIf left.draft.registry.HasNameless := by
      rw [obtain_nicknames obtainedSource]
      exact kept.mono first.mpr
    have second := obtain_written keptLeft ended obtainedTarget
    exact (addTransition_hasNameless both _).trans (second.trans first)
  | @content name remark id found =>
    rw [or_iff_left (Line.not_isNameless rfl)]
    exact annotate_hasNameless o r id remark
  | close | unresolved | ignored => exact (or_iff_left (Line.not_isNameless rfl)).symm

/-- Read here, a line creates a state without a name. -/
def CreatesNameless (o : Options) (r : Reading) (line : Line) : Prop :=
  line.IsNameless ∧ ¬ r.PassesOver o line

/-- A line adds a state without a name exactly if it declares one and is not passed over. -/
theorem step_hasNameless {text : String} (classified : line = Line.classify text)
    (kept : r.draft.nicknames.BlankOnlyIf r.draft.registry.HasNameless)
    (ran : r.step o number line = .ok next) :
    next.draft.registry.HasNameless ↔
      r.draft.registry.HasNameless ∨ r.CreatesNameless o line := by
  by_cases passed : r.PassesOver o line
  · obtain ⟨⟨issue, wrong⟩, simple⟩ := passed
    have idle : ¬ r.CreatesNameless o line := fun creates => creates.2 ⟨⟨issue, wrong⟩, simple⟩
    rw [step_of_issue wrong ran simple, or_iff_left idle]
    exact Iff.rfl
  · rw [step_hasNameless_of_acts classified passed kept ran, CreatesNameless, and_iff_left passed]

/-- A line that introduces a nickname for blanks declares a state without a name, unless it is passed over
and introduces nothing. -/
theorem step_blankOnlyIf {text : String} (classified : line = Line.classify text)
    (kept : r.draft.nicknames.BlankOnlyIf r.draft.registry.HasNameless)
    (ran : r.step o number line = .ok next) :
    next.draft.nicknames.BlankOnlyIf next.draft.registry.HasNameless := by
  have grown := step_hasNameless classified kept ran
  rw [step_nicknames ran]
  split
  · rename_i full nickname introduced
    have word : nickname ≠ "" := by
      rw [classified] at introduced
      exact (Line.classify_introduces introduced).ne_empty
    refine (kept.bind word).mono ?_
    rintro (held | ⟨free, blank⟩)
    · exact grown.mpr (.inl held)
    · refine grown.mpr (.inr ⟨⟨full, Line.declaredName?_of_introduction introduced, blank⟩, ?_⟩)
      rintro ⟨⟨issue, wrong⟩, -⟩
      rcases Draft.issue?_eq_some_iff.mp wrong with
        ⟨short, existing, meant, introducedToo, bound, -⟩ | ⟨_, _, rfl, -⟩
      · cases introduced.symm.trans introducedToo
        rw [free] at bound
        cases bound
      · cases introduced
  · exact kept.mono fun held => grown.mpr (.inl held)

theorem run_hasNameless (written : ∀ entry ∈ lines, ∃ text, entry.1 = Line.classify text)
    (kept : origin.draft.nicknames.BlankOnlyIf origin.draft.registry.HasNameless)
    (ran : run o origin lines = .ok next) :
    next.draft.nicknames.BlankOnlyIf next.draft.registry.HasNameless ∧
      (next.draft.registry.HasNameless ↔ origin.draft.registry.HasNameless ∨
        ∃ entry before, ReachedAt o origin lines entry before ∧ before.CreatesNameless o entry.1) := by
  induction lines using List.reverseRecOn generalizing next with
  | nil =>
    cases ran
    simp [ReachedAt, kept]
  | append_singleton front last ih =>
    obtain ⟨line, number⟩ := last
    rw [run_concat] at ran
    obtain ⟨before, ranFront, stepped⟩ := bind_eq_ok_iff.mp ran
    obtain ⟨writtenFront, writtenHere⟩ := List.forall_mem_append.mp written
    obtain ⟨text, classified⟩ := writtenHere _ List.mem_cons_self
    obtain ⟨keptBefore, earlier⟩ := ih writtenFront ranFront
    refine ⟨step_blankOnlyIf classified keptBefore stepped, ?_⟩
    rw [step_hasNameless classified keptBefore stepped, earlier, exists_reachedAt_concat_iff ranFront,
      or_assoc]

end Reading

/-- A diagram has a state without a name exactly if one of its lines declares one and is not reported for its
nickname. Such a name is written as blanks in quotation marks, with nothing between them or with blanks. -/
theorem nameless_iff {o : Options} {text : String} {a : Analysis} (read : analyze o text = .ok a) :
    ((∃ s ∈ a.states, s.name = "") ↔
      ∃ line number, (line, number) ∈ numberedLines text ∧ line.IsNameless ∧
        ¬ a.rejects text number) ∧
    ∀ line number, (line, number) ∈ numberedLines text → line.IsNameless →
      ∃ written ∈ Text.lines text.toList, line = Line.classify (String.ofList written) ∧
        ∃ blanks, Text.Blanks blanks ∧ '"' :: blanks ++ ['"'] <:+: written := by
  obtain ⟨r, ran, rfl⟩ := analyze_eq_ok_iff.mp read
  have clean : (Reading.start o.startingId.toNat).diagnostics = [] := rfl
  have whole := (Reading.run_hasNameless (fun _ => classified_of_mem)
    (Nicknames.blankOnlyIf_empty _) ran).2
  refine ⟨⟨?_, ?_⟩, ?_⟩
  · intro held
    obtain ⟨entry, before, reached, nameless, acts⟩ :=
      (whole.mp held).resolve_left fun ⟨_, member, _⟩ => nomatch member
    exact ⟨entry.1, entry.2, reached.mem, nameless, mt (reached.rejects_iff clean ran).mp acts⟩
  · rintro ⟨line, number, member, nameless, acts⟩
    obtain ⟨earlier, later, split⟩ := List.append_of_mem member
    obtain ⟨before, after, -, reached, -⟩ := Reading.reachedAt_of_split split ran
    exact whole.mpr (.inr ⟨_, before, reached, nameless, mt (reached.rejects_iff clean ran).mpr acts⟩)
  · intro line number member nameless
    obtain ⟨written, there, classified⟩ := exists_line_of_mem member
    rw [show line = Line.classify (String.ofList written) from classified] at nameless
    obtain ⟨blanks, hollow, inside⟩ := Line.quoted_of_isNameless nameless
    rw [String.toList_ofList] at inside
    exact ⟨written, there, classified, blanks, hollow, inside⟩

/-- Blanks are declared as a name twice: the first time with a nickname that is in conflict. -/
def blankNames : String :=
  "state \"x\" as B\nstate \" \" as B\nstate \"\" \x7b"

theorem nameless_iff_blankNames :
    ∃ a, analyze {} blankNames = .ok a ∧ a.states.map (·.name) = ["x", ""] ∧
      a.rejects blankNames 2 ∧ ¬ a.rejects blankNames 3 ∧ ∃ s ∈ a.states, s.name = "" := by
  obtain ⟨a, read, names, conflict, kept⟩ : ∃ a, analyze {} blankNames = .ok a ∧
      a.states.map (·.name) = ["x", ""] ∧ a.rejects blankNames 2 = true ∧
      a.rejects blankNames 3 = false := ⟨_, by cbv, by cbv, by decide +kernel, by decide +kernel⟩
  have here : (Line.composite "" none, 3) ∈ numberedLines blankNames := by decide +kernel
  have acts : ¬ a.rejects blankNames 3 := by simp [kept]
  exact ⟨a, read, names, conflict, acts,
    (nameless_iff read).1.mpr ⟨_, 3, here, ⟨"", rfl, rfl⟩, acts⟩⟩

/-- So a diagram can have a state without a name. -/
theorem emptyName_not_ignored :
    ∃ a, analyze {} "state \"\" \x7b\n\x7d" = .ok a ∧ ∃ s ∈ a.states, s.name = "" :=
  ⟨_, by cbv, ⟨1, "", .plain, .root, "", []⟩, List.mem_cons_self, rfl⟩

end Statechart
