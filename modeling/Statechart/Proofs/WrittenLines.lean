import Mathlib
import Statechart.Proofs.Grammar

/-! Lines as one writes them. A line that opens a composite state and a line that draws a transition are
read as what they were written for, if the names on them are plain words. The event of a transition is
free: whatever marks it contains, they come too late to be taken for marks of the line. -/
namespace Statechart

/-- A name that needs no care: ASCII letters, digits and underscores, at least one of them, and not the
word that declarations start with. -/
def Legal (name : String) : Prop :=
  name ≠ "" ∧ name ≠ "state" ∧ (name.toList.all fun c => c.isAlphanum || c == '_') = true

instance (name : String) : Decidable (Legal name) :=
  inferInstanceAs (Decidable (_ ∧ _ ∧ _))

namespace Legal

variable {name : String}

theorem ne_nil (legal : Legal name) : name.toList ≠ [] := by
  simpa using legal.1

theorem not_mem (legal : Legal name) {c : Char} (other : (c.isAlphanum || c == '_') = false) :
    c ∉ name.toList := by
  intro member
  rw [List.all_eq_true.mp legal.2.2 c member] at other
  cases other

theorem not_isPrefix (legal : Legal name) {c : Char} (other : (c.isAlphanum || c == '_') = false)
    (mark rest : List Char) : ¬ (c :: mark) <+: name.toList ++ rest := by
  obtain ⟨first, later, shape⟩ := List.exists_cons_of_ne_nil legal.ne_nil
  intro begins
  rw [shape, List.cons_append, List.cons_prefix_cons] at begins
  exact legal.not_mem other (by simp [shape, begins.1])

theorem isBlank_eq_false (legal : Legal name) : ∀ c ∈ name.toList, Text.isBlank c = false := by
  intro c member
  have word := List.all_eq_true.mp legal.2.2 c member
  rw [Bool.eq_false_iff]
  intro blank
  simp only [Text.isBlank, Bool.or_eq_true, Bool.and_eq_true, decide_eq_true_eq, beq_iff_eq] at blank
  simp only [Char.isAlphanum, Char.isAlpha, Char.isUpper, Char.isLower, Char.isDigit, Bool.or_eq_true,
    Bool.and_eq_true, decide_eq_true_eq, beq_iff_eq, ge_iff_le, UInt32.le_iff_toNat_le, Char.reduceVal,
    UInt32.reduceToNat] at word
  have code : c.toNat = c.val.toNat := rfl
  rcases word with written | rfl
  · omega
  · simp at blank

theorem trim_eq (legal : Legal name) : Text.trim name.toList = name.toList :=
  Text.trim_eq_self legal.isBlank_eq_false

theorem written (legal : Legal name) : Written name :=
  ⟨legal.1, legal.trim_eq⟩

/-- It can stand without quotation marks in a declaration. -/
theorem bareName (legal : Legal name) : BareName name := by
  refine ⟨legal.written, legal.not_mem (by decide), legal.not_mem (by decide), legal.not_mem (by decide),
    legal.not_mem (by decide), ?_, ?_⟩
  · intro marked
    exact legal.not_mem (by decide) (marked.subset List.mem_cons_self)
  · intro before after opens _ inside
    have blank := legal.isBlank_eq_false before (inside.subset List.mem_cons_self)
    rw [opens] at blank
    cases blank

/-- It is the plain name of a state. -/
theorem ofString_eq (legal : Legal name) : Name.ofString name = .plain name := by
  rw [Name.ofString_unbracketed (legal.not_mem (by decide)), legal.trim_eq, String.ofList_toList]

end Legal

/-- A transition as one writes it: between two names, possibly with an event. -/
structure Edge where
  /-- The name before the arrow. -/
  source : String
  /-- The name after the arrow. -/
  target : String
  /-- The text after the colon, if there is one. -/
  event : Option String
deriving DecidableEq, Repr

namespace Edge

/-- The line that draws a transition. -/
def line (e : Edge) : String :=
  match e.event with
  | none => e.source ++ " --> " ++ e.target
  | some event => e.source ++ " --> " ++ e.target ++ " : " ++ event

end Edge

/-- A text that can stand behind a colon: it is not empty, it has no blanks at its ends, and it fits on one
line. -/
def LegalEvent (event : String) : Prop :=
  event ≠ "" ∧ Text.trim event.toList = event.toList ∧ '\n' ∉ event.toList

instance (event : String) : Decidable (LegalEvent event) :=
  inferInstanceAs (Decidable (_ ∧ _ ∧ _))

theorem LegalEvent.written {event : String} (legal : LegalEvent event) : Written event :=
  ⟨legal.1, legal.2.1⟩

namespace Line

variable {name source : String}

/-- The line that opens a composite state. -/
theorem classify_open (legal : Legal name) :
    classify ("state " ++ name ++ " \x7b") = .composite name none :=
  (Declares.composite legal.bareName).classify_eq

theorem classify_close : classify "\x7d" = .close := by
  decide

/-- What starts with a plain word and a blank is left to the checks for arrows and colons. -/
theorem not_takenEarlier (legal : Legal source) (rest : List Char) :
    ¬ TakenEarlier (source.toList ++ ' ' :: rest) := by
  have starts {c : Char} (other : (c.isAlphanum || c == '_') = false) (mark : List Char) :
      ¬ (c :: mark) <+: source.toList ++ ' ' :: rest := legal.not_isPrefix other mark _
  rintro (remark | ⟨later, declares⟩ | ends)
  · rw [isComment, Bool.or_eq_true, Bool.and_eq_true, List.isPrefixOf_iff_prefix,
      List.isPrefixOf_iff_prefix] at remark
    rcases remark with quote | ⟨slash, -⟩
    · exact starts (by decide) [] quote
    · exact starts (by decide) ['\''] slash
  · -- What precedes the first blank would be the word that starts declarations.
    have reserved : Text.cut? [' '] (source.toList ++ ' ' :: rest) = some ("state".toList, later) :=
      Text.cut?_eq_some_iff.mpr ⟨by decide, declares.symm⟩
    have named : Text.cut? [' '] (source.toList ++ ' ' :: rest) = some (source.toList, rest) :=
      Text.cut?_eq_some_iff.mpr ⟨legal.not_mem (by decide), rfl⟩
    rw [reserved] at named
    have same := (Prod.ext_iff.mp (Option.some.inj named)).1
    exact legal.2.1 (String.toList_inj.mp same).symm
  · exact starts (by decide) [] ends

/-- The line that draws a transition. -/
theorem classify_edge {e : Edge} (legalSource : Legal e.source) (legalTarget : Legal e.target)
    (legalEvent : ∀ event ∈ e.event, LegalEvent event) :
    classify e.line = .transition e.source e.target e.event := by
  have apart : Arrow.Absent e.source.toList :=
    Arrow.absent_of_not_mem (legalSource.not_mem (by decide))
  have drawn : Arrow.IsArrow "-->".toList := ⟨1, [], 0, .inl rfl, by decide⟩
  have uncut : ':' ∉ e.target.toList := legalTarget.not_mem (by decide)
  cases happens : e.event with
  | none =>
    have shape : e.line = e.source ++ " " ++ "-->" ++ " " ++ e.target := by
      simp [Edge.line, happens, ← String.toList_inj]
    have tells := Tells.transition legalSource.written apart drawn legalTarget.written uncut
    rw [shape]
    apply tells.classify_eq_iff.mpr
    rw [trim_transition "-->" legalSource.written legalTarget.written, List.append_assoc]
    exact not_takenEarlier legalSource _
  | some event =>
    have legalHere := legalEvent event happens
    have shape : e.line = e.source ++ " " ++ "-->" ++ " " ++ e.target ++ " : " ++ event := by
      simp [Edge.line, happens, ← String.toList_inj]
    have tells :=
      Tells.labelled legalSource.written apart drawn legalTarget.written uncut legalHere.written
    rw [shape]
    apply tells.classify_eq_iff.mpr
    rw [trim_labelled "-->" e.target legalSource.written legalHere.written, List.append_assoc]
    exact not_takenEarlier legalSource _

end Line

/-- These lines make up a text: a line feed stands between any two of them, and one may stand behind the
last one. -/
def Spells (text : String) (lines : List String) : Prop :=
  text = String.join (lines.map (· ++ "\n")) ∨ text = "\n".intercalate lines

variable {text : String} {lines : List String}

/-- The carriage return of a line ending and the blanks at the ends of a line do not matter. -/
theorem classify_stripReturn (line : String) :
    Line.classify (String.ofList (Text.stripReturn line.toList)) = Line.classify line := by
  simp [Line.classify, Text.trim_stripReturn]

theorem classifiedLines_join (free : ∀ line ∈ lines, '\n' ∉ line.toList) :
    classifiedLines (Text.lines (String.join (lines.map (· ++ "\n"))).toList) = lines.map Line.classify := by
  induction lines with
  | nil => rfl
  | cons line later ih =>
    obtain ⟨freeHere, freeLater⟩ := List.forall_mem_cons.mp free
    have shape : (String.join ((line :: later).map (· ++ "\n"))).toList =
        line.toList ++ '\n' :: (String.join (later.map (· ++ "\n"))).toList := by simp
    rw [shape, Text.lines_feed _ freeHere, classifiedLines, List.map_cons, classify_stripReturn]
    exact congrArg (_ :: ·) (ih freeLater)

theorem classifiedLines_intercalate (free : ∀ line ∈ lines, '\n' ∉ line.toList)
    (written : ∀ line ∈ lines, line ≠ "") :
    classifiedLines (Text.lines ("\n".intercalate lines).toList) = lines.map Line.classify := by
  induction lines with
  | nil => rfl
  | cons line later ih =>
    obtain ⟨freeHere, freeLater⟩ := List.forall_mem_cons.mp free
    obtain ⟨here, writtenLater⟩ := List.forall_mem_cons.mp written
    cases later with
    | nil =>
      have shape : ("\n".intercalate [line]).toList = line.toList := by simp
      rw [shape, Text.lines_of_not_mem freeHere (by simpa using here)]
      simp [classifiedLines]
    | cons next rest =>
      have shape : ("\n".intercalate (line :: next :: rest)).toList =
          line.toList ++ '\n' :: ("\n".intercalate (next :: rest)).toList := by simp
      rw [shape, Text.lines_feed _ freeHere, classifiedLines, List.map_cons, classify_stripReturn]
      exact congrArg (_ :: ·) (ih freeLater writtenLater)

/-- A text does what the lines do that make it up. -/
theorem Spells.numberedLines_eq (spells : Spells text lines)
    (free : ∀ line ∈ lines, '\n' ∉ line.toList) (written : ∀ line ∈ lines, line ≠ "") :
    numberedLines text = (lines.map Line.classify).zipIdx 1 := by
  rcases spells with rfl | rfl
  · exact congrArg (List.zipIdx · 1) (classifiedLines_join free)
  · exact congrArg (List.zipIdx · 1) (classifiedLines_intercalate free written)

end Statechart
