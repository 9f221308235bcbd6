import Statechart.Proofs.Grammar

/-! What stood on a line, told from what it is read as. A transition is read exactly off the lines that no
earlier check takes and that are made of its parts around their leftmost arrow, with blanks between them, and
a text for a state off those that are made of its parts around their first colon and in which no arrow occurs.
The end of a scope is read off every line that starts with a closing brace. And only lines that start with
the word `state` declare anything: whatever they declare stands on them. -/
namespace Statechart

/-- A text is the transition from one name to another: it is made of these names, the leftmost arrow, and
what tells the event, with blanks between them. -/
def SpellsTransition (text : List Char) (source target : String) (event : Option String) : Prop :=
  Written source ∧ Written target ∧ ':' ∉ target.toList ∧
    ∃ gap arrow opening closing tail, Text.Blanks gap ∧ Text.Blanks opening ∧ Text.Blanks closing ∧
      Arrow.IsArrow arrow ∧ TellsEvent tail event ∧
      text = source.toList ++ gap ++ arrow ++ opening ++ target.toList ++ closing ++ tail ∧
      ∀ front other back, Arrow.IsArrow other → text = front ++ other ++ back →
        (source.toList ++ gap).length ≤ front.length

/-- A text is a remark on a name: no arrow occurs in it, and the name stands before its first colon. -/
def SpellsContent (text : List Char) (name remark : String) : Prop :=
  Arrow.Absent text ∧ Written name ∧ ':' ∉ name.toList ∧
    ∃ gap tail, Text.Blanks gap ∧ text = name.toList ++ gap ++ ':' :: tail ∧
      remark = String.ofList (Text.trim tail)

namespace Line

variable {text left right : List Char} {source target name remark : String} {event : Option String}

/-- The checks that can take a line, with what they read off it. -/
theorem ofTrimmed_cases (text : List Char) :
    ofTrimmed text = ignored ∨
      (∃ body, text = "state ".toList ++ body ∧ ofTrimmed text = ofDeclaration (Text.trim body)) ∨
      (['}'] <+: text ∧ ofTrimmed text = close) ∨ (ofTrimmed text).isStatement = true := by
  unfold ofTrimmed
  split
  · exact .inl rfl
  · split
    · rename_i body started
      exact .inr (.inl ⟨body, (List.isPrefixOf?_eq_some_iff_append_eq.mp started).symm, rfl⟩)
    · split
      · rename_i ends
        exact .inr (.inr (.inl ⟨List.isPrefixOf_iff_prefix.mp ends, rfl⟩))
      · split
        · rename_i left right _
          rcases ofArrow_eq_ignored_or left right with other | ⟨_, _, _, told⟩
          · exact .inl other
          · exact .inr (.inr (.inr (by rw [told]; rfl)))
        · rcases ofAnnotation_eq_ignored_or text with other | ⟨_, _, told⟩
          · exact .inl other
          · exact .inr (.inr (.inr (by rw [told]; rfl)))

/-- A statement is read off a line only if something stands on it that no earlier check takes. -/
theorem not_taken_of_isStatement (statement : (ofTrimmed text).isStatement = true) :
    text ≠ [] ∧ ¬ TakenEarlier text := by
  constructor
  · rintro rfl
    cases statement
  · intro taken
    rw [ofTrimmed_isStatement taken] at statement
    cases statement

/-- A transition is read exactly where one is spelled and no earlier check takes the line. -/
theorem ofTrimmed_eq_transition_iff (trimmed : Text.trim text = text) :
    ofTrimmed text = .transition source target event ↔
      ¬ TakenEarlier text ∧ SpellsTransition text source target event := by
  constructor
  · intro read
    obtain ⟨written, free⟩ := not_taken_of_isStatement (by rw [read]; rfl)
    refine ⟨free, ?_⟩
    rw [ofTrimmed_of_not_taken written free] at read
    split at read
    · rename_i left right divided
      obtain ⟨arrow, drawn, shape, least⟩ := Arrow.split?_eq_some_iff.mp divided
      obtain ⟨start, ended, spelled, body, tail, rfl, uncut, spelledTarget, tells⟩ :=
        ofArrow_eq_transition_iff.mp read
      have begins : left <+: text := ⟨arrow ++ (body ++ tail), by rw [shape, List.append_assoc]⟩
      obtain ⟨gap, apart, leftShape⟩ := Text.exists_margin trimmed begins
      obtain ⟨opening, closing, before, after, bodyShape⟩ := Text.exists_margins body
      rw [spelled] at leftShape
      rw [spelledTarget] at bodyShape
      subst leftShape bodyShape
      have targetUncut : ':' ∉ target.toList :=
        fun member => uncut (List.mem_append_left _ (List.mem_append_right _ member))
      refine ⟨start, ended, targetUncut, gap, arrow, opening, closing, tail, apart, before, after, drawn,
        tells, ?_, least⟩
      rw [shape]
      simp
    · rcases ofAnnotation_eq_ignored_or text with other | ⟨_, _, other⟩ <;> rw [other] at read <;> cases read
  · rintro ⟨free, start, ended, uncut, gap, arrow, opening, closing, tail, apart, before, after, drawn,
      tells, shape, least⟩
    have divided : Arrow.split? text =
        some (source.toList ++ gap, opening ++ target.toList ++ closing ++ tail) := by
      apply Arrow.split?_eq_some_iff.mpr
      exact ⟨arrow, drawn, by simp [shape], least⟩
    have written : text ≠ [] := by
      rw [shape]
      simp [start.ne_empty]
    have solid : Text.isBlank ':' = false := by decide
    have uncutBody : ':' ∉ opening ++ target.toList ++ closing := by
      simp [before.not_mem solid, after.not_mem solid, uncut]
    rw [ofTrimmed_of_not_taken written free, divided]
    apply ofArrow_eq_transition_iff.mpr
    refine ⟨start, ended, ?_, _, tail, rfl, uncutBody, Text.trim_margins before after ended.trim_eq, tells⟩
    rw [Text.trim_append_blanks apart, start.trim_eq]

/-- A text for a state is read exactly where one is spelled and no earlier check takes the line. -/
theorem ofTrimmed_eq_content_iff (trimmed : Text.trim text = text) :
    ofTrimmed text = .content name remark ↔ ¬ TakenEarlier text ∧ SpellsContent text name remark := by
  constructor
  · intro read
    obtain ⟨written, free⟩ := not_taken_of_isStatement (by rw [read]; rfl)
    refine ⟨free, ?_⟩
    rw [ofTrimmed_of_not_taken written free] at read
    split at read
    · rename_i left right _
      rcases ofArrow_eq_ignored_or left right with other | ⟨_, _, _, other⟩ <;> rw [other] at read <;>
        cases read
    · rename_i whole
      obtain ⟨named, before, tail, shape, uncut, spelled, remarked⟩ := ofAnnotation_eq_content_iff.mp read
      have begins : before <+: text := ⟨':' :: tail, shape.symm⟩
      obtain ⟨gap, apart, beforeShape⟩ := Text.exists_margin trimmed begins
      rw [spelled] at beforeShape
      subst beforeShape
      exact ⟨Arrow.split?_eq_none_iff.mp whole, named, fun member => uncut (List.mem_append_left _ member),
        gap, tail, apart, shape, remarked⟩
  · rintro ⟨free, whole, named, uncut, gap, tail, apart, shape, remarked⟩
    have written : text ≠ [] := by simp [shape]
    have gapUncut : ':' ∉ gap := apart.not_mem (by decide)
    rw [ofTrimmed_of_not_taken written free, Arrow.split?_eq_none_iff.mpr whole]
    apply ofAnnotation_eq_content_iff.mpr
    refine ⟨named, _, tail, shape, by simp [uncut, gapUncut], ?_, remarked⟩
    rw [Text.trim_append_blanks apart, named.trim_eq]

/-- A transition is between names. -/
theorem written_of_classify_transition {line : String}
    (read : classify line = .transition source target event) : Written source ∧ Written target := by
  obtain ⟨-, start, ended, -⟩ := (ofTrimmed_eq_transition_iff (Text.trim_trim _)).mp read
  exact ⟨start, ended⟩

/-- The end of a scope is read off every line that starts with a closing brace, and off no other line. -/
theorem ofTrimmed_eq_close_iff : ofTrimmed text = .close ↔ ['}'] <+: text := by
  constructor
  · intro read
    rcases ofTrimmed_cases text with other | ⟨body, -, declares⟩ | ⟨ends, -⟩ | statement
    · rw [read] at other
      cases other
    · have declared := ofDeclaration_declared (Text.trim body)
      rw [← declares, read] at declared
      cases declared
    · exact ends
    · rw [read] at statement
      cases statement
  · rintro ⟨rest, rfl⟩
    rfl

/-- A line that declares a state or enters one. -/
def isDeclaration : Line → Bool
  | composite .. => true
  | aliased .. => true
  | stereotyped .. => true
  | simple .. => true
  | _ => false

/-- The name that a line declares, as it was written. -/
def declaredName? : Line → Option String
  | composite name _ => some name
  | aliased name _ _ => some name
  | stereotyped name _ => some name
  | simple name _ => some name
  | _ => none

theorem isDeclaration_of_declaredName {line : Line} {name : String}
    (declares : line.declaredName? = some name) : line.isDeclaration = true := by
  cases line with
  | composite | aliased | stereotyped | simple => rfl
  | close | transition | content | ignored => cases declares

theorem isStatement_of_isDeclaration {line : Line} (declares : line.isDeclaration = true) :
    line.isStatement = false := by
  cases line <;> simp_all [isDeclaration, isStatement]

/-- Only a line that starts with the word `state` is read as a declaration, and what it declares stands on
it. -/
theorem declared_of_isDeclaration (declares : (ofTrimmed text).isDeclaration = true) :
    "state ".toList <+: text ∧ Declared text (ofTrimmed text) := by
  rcases ofTrimmed_cases text with other | ⟨body, rfl, declared⟩ | ⟨-, ends⟩ | statement
  · rw [other] at declares
    cases declares
  · refine ⟨List.prefix_append _ _, ?_⟩
    rw [declared]
    refine (ofDeclaration_declared _).of_isInfix ?_
    exact (Text.trim_isInfix body).trans (List.suffix_append _ body).isInfix
  · rw [ends] at declares
    cases declares
  · rw [isStatement_of_isDeclaration declares] at statement
    cases statement

/-- A name that is declared stands on its line. -/
theorem Declared.nameIn {text : List Char} {line : Line} {name : String} (declared : Declared text line)
    (declares : line.declaredName? = some name) : NameIn text name := by
  cases declared with
  | ignored => cases declares
  | composite named | aliased named | stereotyped named | simple named =>
    cases declares
    exact named

/-- What a line is read as says what stands on it. A transition and a text for a state are read exactly off
the lines that spell them and that no earlier check takes, the end of a scope exactly off the lines that
start with a closing brace, and a declaration only off lines that start with the word `state`. -/
theorem classify_sound (line : String) :
    (∀ source target event, classify line = .transition source target event ↔
      ¬ TakenEarlier (Text.trim line.toList) ∧
        SpellsTransition (Text.trim line.toList) source target event) ∧
    (∀ name remark, classify line = .content name remark ↔
      ¬ TakenEarlier (Text.trim line.toList) ∧ SpellsContent (Text.trim line.toList) name remark) ∧
    ((classify line).isDeclaration = true →
      "state ".toList <+: Text.trim line.toList ∧ Declared (Text.trim line.toList) (classify line)) ∧
    (classify line = .close ↔ ['}'] <+: Text.trim line.toList) :=
  ⟨fun _ _ _ => ofTrimmed_eq_transition_iff (Text.trim_trim _),
    fun _ _ => ofTrimmed_eq_content_iff (Text.trim_trim _), declared_of_isDeclaration,
    ofTrimmed_eq_close_iff⟩

/-- The names at an arrow can look like the start of an arrow and like another arrow, a quoted name can
hold blanks, and an arrow does not save a line from a check that comes earlier. -/
theorem classify_sound_lookalikes :
    SpellsTransition (Text.trim "  a-b-> c--left->d :x:  ".toList) "a-b" "c--left->d" (some "x:") ∧
      Declared (Text.trim "state \" a b\" as A <<fork>>".toList) (.aliased " a b" "A" (some "fork")) ∧
      classify "\x7d --> B" ≠ .transition "\x7d" "B" none := by
  have drawn := (classify_sound "  a-b-> c--left->d :x:  ").1 "a-b" "c--left->d" (some "x:")
  have declared := (classify_sound "state \" a b\" as A <<fork>>").2.2.1 (by decide)
  have taken : TakenEarlier (Text.trim "\x7d --> B".toList) := by decide
  refine ⟨(drawn.mp (by decide)).2, declared.2, ?_⟩
  intro read
  exact (((classify_sound "\x7d --> B").1 _ _ _).mp read).1 taken

end Line

end Statechart
