import Mathlib
import Statechart.Proofs.Classification
import Statechart.Proofs.Requests

/-! Nicknames and what they stand for. A nickname is written without blanks, so it is found as it was
introduced, and it is replaced by the full name as that was written: the blanks around the full name
stay, and if the full name is a nickname of another name, that is not looked up. Written by itself,
the full name loses its blanks and is replaced. So the two agree exactly where these steps do not
change what the full name asks for. -/
namespace Statechart

namespace Line

/-- The full name and the nickname that a line introduces. -/
def introduction? : Line → Option (String × String)
  | composite name (some nickname) => some (name, nickname)
  | aliased name nickname _ => some (name, nickname)
  | _ => none

theorem declaredName?_of_introduction {line : Line} {full nickname : String}
    (introduced : line.introduction? = some (full, nickname)) : line.declaredName? = some full := by
  cases line with
  | composite name word =>
    cases word <;> cases introduced
    rfl
  | aliased =>
    cases introduced
    rfl
  | close | stereotyped | simple | transition | content | ignored => cases introduced

/-- What a declaration introduces is a nickname that stands on its line. -/
theorem Declared.introduces {text : List Char} {line : Line} {full nickname : String}
    (declared : Declared text line) (introduced : line.introduction? = some (full, nickname)) :
    NicknameIn text nickname := by
  cases declared with
  | @composite name word named short =>
    cases word with
    | none => cases introduced
    | some word =>
      cases introduced
      exact short nickname rfl
  | aliased named short =>
    cases introduced
    exact short
  | ignored | stereotyped | simple => cases introduced

/-- Nicknames are words. -/
theorem classify_introduces {line full nickname : String}
    (introduced : (classify line).introduction? = some (full, nickname)) : NicknameWord nickname := by
  have declares := isDeclaration_of_declaredName (declaredName?_of_introduction introduced)
  have declared := (declared_of_isDeclaration declares).2
  exact (declared.introduces introduced).toNicknameWord

end Line

namespace Nicknames

variable {table : Nicknames} {full nickname other : String}

/-- The nicknames after one more was introduced. If it is in use already, nothing changes. -/
def bind (table : Nicknames) (full nickname : String) : Nicknames :=
  match table.get? nickname with
  | none => ⟨(nickname, full) :: table.entries⟩
  | some _ => table

theorem get?_bind (table : Nicknames) (full nickname other : String) :
    (table.bind full nickname).get? other =
      if other = nickname then some ((table.get? nickname).getD full) else table.get? other := by
  unfold bind
  cases bound : table.get? nickname with
  | none =>
    by_cases same : other = nickname
    · simp [get?, same]
    · have unequal : (other == nickname) = false := beq_false_of_ne same
      simp [get?, List.lookup_cons, unequal, same]
  | some existing =>
    by_cases same : other = nickname
    · simp [same, bound]
    · simp [same]

/-- So a nickname stands for what was introduced last, or for what it stood for before. -/
theorem bound_of_bind {standsFor : String}
    (bound : (table.bind full nickname).get? other = some standsFor) :
    standsFor = full ∨ table.get? other = some standsFor := by
  rw [get?_bind] at bound
  split at bound
  · rename_i same
    subst same
    cases known : table.get? other with
    | none =>
      rw [known] at bound
      exact .inl (Option.some.inj bound).symm
    | some existing =>
      rw [known] at bound
      exact .inr bound
  · exact .inr bound

/-- No nickname in force has blanks. -/
def Bare (table : Nicknames) : Prop :=
  ∀ nickname full, table.get? nickname = some full → ∀ c ∈ nickname.toList, Text.isBlank c = false

theorem bare_empty : empty.Bare := by
  intro nickname full bound
  simp [get?, empty] at bound

theorem Bare.bind (bare : table.Bare) (free : ∀ c ∈ nickname.toList, Text.isBlank c = false) :
    (table.bind full nickname).Bare := by
  intro other standsFor bound
  rw [get?_bind] at bound
  split at bound
  · rename_i same
    rw [same]
    exact free
  · exact bare other standsFor bound

/-- A nickname is found as it is written. -/
theorem fullName_of_bound (bound : table.get? nickname = some full) :
    table.fullName nickname = full := by
  simp [fullName, bound]

end Nicknames

namespace Reading

variable {o : Options} {r next : Reading} {number : Nat} {raw : String} {role : Role}
  {kind : Option Kind} {id : StateId} {line : Line}

theorem introduce_draft (r : Reading) (number : Nat) (full nickname : String) :
    (r.introduce number full nickname).2.draft =
      { r.draft with nicknames := r.draft.nicknames.bind full nickname } := by
  unfold Nicknames.bind
  obtain ⟨free, result⟩ | ⟨bound, result⟩ | ⟨existing, bound, -, result⟩ :=
    r.introduce_cases number full nickname
  · rw [result, free]
    rfl
  · rw [result, bound]
  · rw [result, bound]
    rfl

theorem introduce_nicknames (r : Reading) (number : Nat) (full nickname : String) :
    (r.introduce number full nickname).2.draft.nicknames = r.draft.nicknames.bind full nickname := by
  rw [introduce_draft]

theorem obtain_nicknames (ran : r.obtain o number raw role kind = .ok (id, next)) :
    next.draft.nicknames = r.draft.nicknames := by
  rcases obtain_eq_ok_iff.mp ran with ⟨-, rfl⟩ | ⟨place, -, -, -, rfl⟩ <;> rfl

/-- The nicknames in force change only by what a line introduces. -/
theorem step_nicknames (ran : r.step o number line = .ok next) :
    next.draft.nicknames =
      match line.introduction? with
      | some (full, nickname) => r.draft.nicknames.bind full nickname
      | none => r.draft.nicknames := by
  cases step_reads ran with
  | composite obtained | stereotyped obtained | simple obtained | described obtained =>
    exact (obtain_nicknames obtained :)
  | compositeAliased obtained | aliased agrees obtained =>
    exact (obtain_nicknames obtained).trans (r.introduce_nicknames number _ _)
  | refused => exact r.introduce_nicknames number _ _
  | transition obtainedSource obtainedTarget =>
    rw [addTransition_eq]
    exact (obtain_nicknames obtainedTarget).trans (obtain_nicknames obtainedSource)
  | close | content | unresolved | ignored => rfl

/-- No nickname that a diagram introduces has blanks. -/
theorem run_bare {lines : List (Line × Nat)}
    (written : ∀ entry ∈ lines, ∃ text, entry.1 = Line.classify text)
    (ran : run o r lines = .ok next) (bare : r.draft.nicknames.Bare) : next.draft.nicknames.Bare := by
  refine run_preserves (P := fun r => r.draft.nicknames.Bare) ran ?_ bare
  intro entry member before after stepped bare
  rw [step_nicknames stepped]
  split
  · rename_i full nickname introduced
    obtain ⟨text, classified⟩ := written entry member
    rw [classified] at introduced
    have word := Line.classify_introduces introduced
    exact bare.bind fun c member => (word.unended c member).1
  · exact bare

end Reading

/-- However a diagram goes on, a nickname refers to what its full name refers to exactly if the full
name asks for the same when it is read as it was written and when it is trimmed and replaced in its
turn. A full name that is not replaced in its turn does, but for one with blanks around it that is
the history of an unknown owner. -/
theorem nickname_transparency {o : Options} {startingId : StateId} {lines : List (Line × Nat)}
    {r : Reading} {full nickname : String}
    (written : ∀ entry ∈ lines, ∃ text, entry.1 = Line.classify text)
    (ran : Reading.run o (.start startingId) lines = .ok r)
    (bound : r.draft.nicknames.get? nickname = some full) (identity : Identity) (role : Role) :
    (r.draft.resolve identity nickname role = r.draft.resolve identity full role ↔
      r.draft.request identity full = r.draft.request identity (r.draft.fullName full)) ∧
    (r.draft.fullName full = String.ofList (Text.trim full.toList) →
      (r.draft.resolve identity nickname role = r.draft.resolve identity full role ↔
        String.ofList (Text.trim full.toList) = full ∨
        ∀ owner marker, Name.ofString full = .history (some owner) marker →
          r.draft.findPlain? identity (r.draft.nicknames.fullName owner) ≠ none)) := by
  have bare := Reading.run_bare written ran Nicknames.bare_empty
  have numbered := (Reading.run_moves ran).numbered (Registry.numbered_empty startingId)
  have found : r.draft.fullName nickname = full := by
    unfold Draft.fullName
    rw [Text.trim_eq_self (bare nickname full bound), String.ofList_toList]
    exact Nicknames.fullName_of_bound bound
  have transparent : r.draft.resolve identity nickname role = r.draft.resolve identity full role ↔
      r.draft.request identity full = r.draft.request identity (r.draft.fullName full) := by
    rw [Draft.resolve_eq_answer, Draft.resolve_eq_answer, found]
    exact Draft.answer_inj numbered (Draft.request_readable _ _ _) (Draft.request_readable _ _ _)
  refine ⟨transparent, ?_⟩
  intro kept
  rw [transparent, kept]
  exact r.draft.request_trim_iff identity full

/-- A nickname that is used before and after a scope is opened. -/
def nicknamed : String :=
  "state \"Long Name\" as L\nstate S \x7b\nL --> [*]"

theorem nickname_transparency_nicknamed :
    ∃ r, Reading.run {} (.start 0) (numberedLines nicknamed) = .ok r ∧
      r.draft.nicknames.get? "L" = some "Long Name" ∧
      r.draft.resolve .lexical "Long Name" .target = .found 1 ∧
      ∀ identity role,
        r.draft.resolve identity "L" role = r.draft.resolve identity "Long Name" role := by
  obtain ⟨r, ran, bound, kept, there⟩ : ∃ r,
      Reading.run {} (.start 0) (numberedLines nicknamed) = .ok r ∧
      r.draft.nicknames.get? "L" = some "Long Name" ∧
      r.draft.fullName "Long Name" = "Long Name" ∧
      r.draft.resolve .lexical "Long Name" .target = .found 1 :=
    ⟨_, by cbv, by cbv, by cbv, by cbv⟩
  refine ⟨r, ran, bound, there, ?_⟩
  intro identity role
  have transparent := nickname_transparency (fun _ => classified_of_mem) ran bound identity role
  exact (transparent.2 kept).mpr (.inl (by decide))

/-- A nickname of what is a nickname itself, and a nickname of a history with a blank before it. -/
def renamedTwice : String :=
  "state \"C\" as B\nstate \"B\" as A\nstate \" Ghost[H]\" as G"

/-- Neither of them refers to what its full name refers to. -/
theorem renamedTwice_not_transparent :
    ∃ r, Reading.run {} (.start 0) (numberedLines renamedTwice) = .ok r ∧
      (r.draft.nicknames.get? "A" = some "B" ∧
        r.draft.resolve .global "A" .declaration ≠ r.draft.resolve .global "B" .declaration) ∧
      r.draft.nicknames.get? "G" = some " Ghost[H]" ∧
      r.draft.resolve .global "G" .declaration ≠
        r.draft.resolve .global " Ghost[H]" .declaration := by
  refine ⟨_, by cbv, ⟨by cbv, ?_⟩, by cbv, ?_⟩
  · decide
  · decide

end Statechart
