import Statechart.Proofs.DeclaredParts
import Statechart.Proofs.Arrows
import Statechart.Proofs.Statements

/-! The grammar of the lines, and that each of its forms is read as what it was written for. The marks of
several forms can stand on one line, so each form says what its parts must not contain. That settles which
check takes a declaration. The other lines are tried after the comments, the declarations and the ends of
scopes, and are read as they were meant exactly if none of these takes them first. -/
namespace Statechart

/-- The forms of a declaration, each with what it declares. -/
inductive Declares : String → Line → Prop where
  | composite {name : String} (bare : BareName name) :
      Declares ("state " ++ name ++ " \x7b") (.composite name none)
  | quotedComposite {name nickname : String} (unquoted : '"' ∉ name.toList)
      (unopened : '{' ∉ name.toList) (unmarked : ¬ ['<', '<'] <:+: name.toList)
      (word : NicknameWord nickname) :
      Declares ("state \"" ++ name ++ "\" as " ++ nickname ++ " \x7b")
        (.composite name (some nickname))
  | aliased {name nickname : String} (unquoted : '"' ∉ name.toList) (unopened : '{' ∉ name.toList)
      (word : NicknameWord nickname) :
      Declares ("state \"" ++ name ++ "\" as " ++ nickname) (.aliased name nickname none)
  | aliasedStereotyped {name nickname label : String} (unquoted : '"' ∉ name.toList)
      (unopened : '{' ∉ name.toList) (word : NicknameWord nickname)
      (labelled : StereotypeLabel label) :
      Declares ("state \"" ++ name ++ "\" as " ++ nickname ++ " <<" ++ label ++ ">>")
        (.aliased name nickname (some label))
  | stereotyped {name label : String} (bare : BareName name) (labelled : StereotypeLabel label) :
      Declares ("state " ++ name ++ " <<" ++ label ++ ">>") (.stereotyped name label)
  | simple {name : String} (bare : BareName name) : Declares ("state " ++ name) (.simple name none)
  | simpleContent {name text : String} (bare : BareName name)
      (trimmed : Text.trim text.toList = text.toList) (unopened : '{' ∉ text.toList)
      (unmarked : ¬ ['<', '<'] <:+: text.toList) :
      Declares ("state " ++ name ++ " : " ++ text) (.simple name (some text))

/-- The forms of a transition and of a text for a state, each with what it says. -/
inductive Tells : String → Line → Prop where
  | transition {source arrow target : String} (start : Written source)
      (apart : Arrow.Absent source.toList) (drawn : Arrow.IsArrow arrow.toList)
      (ended : Written target) (uncut : ':' ∉ target.toList) :
      Tells (source ++ " " ++ arrow ++ " " ++ target) (.transition source target none)
  | labelled {source arrow target event : String} (start : Written source)
      (apart : Arrow.Absent source.toList) (drawn : Arrow.IsArrow arrow.toList)
      (ended : Written target) (uncut : ':' ∉ target.toList) (happens : Written event) :
      Tells (source ++ " " ++ arrow ++ " " ++ target ++ " : " ++ event)
        (.transition source target (some event))
  | content {name text : String} (named : Written name) (uncut : ':' ∉ name.toList)
      (trimmed : Text.trim text.toList = text.toList) (apart : Arrow.Absent name.toList)
      (apartText : Arrow.Absent text.toList) : Tells (name ++ " : " ++ text) (.content name text)

namespace Line

variable {text body : List Char}

theorem trim_quoted (text : List Char) {ended : List Char} (trimmed : Text.trim ended = ended)
    (written : ended ≠ []) :
    Text.trim ('"' :: text ++ '"' :: (" as ".toList ++ ended)) =
      '"' :: text ++ '"' :: (" as ".toList ++ ended) := by
  have parts : '"' :: text ++ '"' :: (" as ".toList ++ ended) =
      ['"'] ++ (text ++ '"' :: " as ".toList) ++ ended := by simp
  rw [parts]
  exact Text.trim_between _ (by decide) trimmed (by decide) written

theorem trim_label {front : List Char} (trimmed : Text.trim front = front) (written : front ≠ [])
    (label : List Char) :
    Text.trim (front ++ ' ' :: '<' :: '<' :: label ++ ['>', '>']) =
      front ++ ' ' :: '<' :: '<' :: label ++ ['>', '>'] := by
  have parts : front ++ ' ' :: '<' :: '<' :: label ++ ['>', '>'] =
      front ++ (' ' :: '<' :: '<' :: label) ++ ['>', '>'] := by simp
  rw [parts]
  exact Text.trim_between _ trimmed (by decide) written (by decide)

/-- The word `state` at the start of a line makes it a declaration. -/
theorem classify_of_trim {line : String} (shape : Text.trim line.toList = "state ".toList ++ body)
    (trimmed : Text.trim body = body) : classify line = ofDeclaration body := by
  have comment : ¬ ("state ".toList ++ body = [] ∨ isComment ("state ".toList ++ body) = true) := by
    simp [isComment, List.isPrefixOf]
  have declares : "state ".toList.isPrefixOf? ("state ".toList ++ body) = some body :=
    List.isPrefixOf?_eq_some_iff_append_eq.mpr rfl
  unfold classify ofTrimmed
  rw [shape, if_neg comment, declares]
  dsimp only
  rw [trimmed]

theorem trim_declaration (trimmed : Text.trim body = body) (written : body ≠ []) :
    Text.trim ("state ".toList ++ body) = "state ".toList ++ body := by
  have parts : "state ".toList ++ body = "state".toList ++ [' '] ++ body := rfl
  rw [parts]
  exact Text.trim_between [' '] (by decide) trimmed (by decide) written

theorem classify_declaration {line : String} (shape : line.toList = "state ".toList ++ body)
    (trimmed : Text.trim body = body) (written : body ≠ []) : classify line = ofDeclaration body := by
  apply classify_of_trim _ trimmed
  rw [shape, trim_declaration trimmed written]

/-- What is left of a text behind a colon and a blank, once the blanks at the end of the line are gone. -/
theorem exists_trimmed_tail (trimmed : Text.trim text = text) :
    ∃ tail, tail <+: ' ' :: text ∧ Text.trim tail = text ∧
      ∀ front, Text.trim front = front → front ≠ [] →
        Text.trim (front ++ ' ' :: ':' :: ' ' :: text) = front ++ ' ' :: ':' :: tail := by
  by_cases empty : text = []
  · subst empty
    refine ⟨[], List.nil_prefix, rfl, ?_⟩
    intro front kept written
    have parts : front ++ [' ', ':', ' '] = front ++ [' '] ++ [':'] ++ [' '] := by simp
    rw [parts, Text.trim_concat_blank _ Text.isBlank_space,
      Text.trim_between [' '] kept (by decide) written (by decide), List.append_assoc]
    rfl
  · refine ⟨' ' :: text, List.prefix_rfl, ?_, ?_⟩
    · rw [Text.trim_cons_blank Text.isBlank_space, trimmed]
    · intro front kept written
      have parts : front ++ ' ' :: ':' :: ' ' :: text = front ++ [' ', ':', ' '] ++ text := by simp
      rw [parts, Text.trim_between _ kept trimmed written empty]

variable {line name nickname label content : String} {rest : List Char}

theorem classify_composite (bare : BareName name) :
    classify ("state " ++ name ++ " \x7b") = .composite name none := by
  have trimmed : Text.trim (name.toList ++ [' '] ++ ['{']) = name.toList ++ [' '] ++ ['{'] :=
    Text.trim_between [' '] bare.trim_eq (by decide) bare.ne_nil (by decide)
  rw [classify_declaration (by simp) trimmed (by simp), ofDeclaration_open bare.unopened bare.trim_eq,
    ofHead_bare bare]

theorem classify_quotedComposite (unquoted : '"' ∉ name.toList) (unopened : '{' ∉ name.toList)
    (unmarked : ¬ ['<', '<'] <:+: name.toList) (word : NicknameWord nickname) :
    classify ("state \"" ++ name ++ "\" as " ++ nickname ++ " \x7b") =
      .composite name (some nickname) := by
  obtain ⟨head, spelled⟩ :
      ∃ head, head = '"' :: name.toList ++ '"' :: (" as ".toList ++ nickname.toList) := ⟨_, rfl⟩
  have headTrimmed : Text.trim head = head := by
    rw [spelled]
    exact trim_quoted _ word.trim_eq word.ne_nil
  have headUnopened : '{' ∉ head := by
    have nicknameUnopened : '{' ∉ nickname.toList := word.not_mem (by decide)
    simp [spelled, unopened, nicknameUnopened]
  have trimmed : Text.trim (head ++ [' '] ++ ['{']) = head ++ [' '] ++ ['{'] :=
    Text.trim_between [' '] headTrimmed (by decide) (by simp [spelled]) (by decide)
  rw [classify_declaration (by simp [spelled]) trimmed (by simp),
    ofDeclaration_open headUnopened headTrimmed, spelled, ofHead_quoted unquoted unmarked word,
    String.ofList_toList]

/-- A quoted name and its nickname, whatever follows them. -/
theorem classify_quoted
    (shape : line.toList = "state ".toList ++
      ('"' :: name.toList ++ '"' :: (" as ".toList ++ (nickname.toList ++ rest))))
    (unquoted : '"' ∉ name.toList) (unopened : '{' ∉ name.toList) (word : NicknameWord nickname)
    (ends : ∀ c ∈ rest.head?, endsNickname c = true) (closed : '{' ∉ rest)
    (trimmed : Text.trim (nickname.toList ++ rest) = nickname.toList ++ rest) :
    classify line = .aliased name nickname
      ((stereotype? (Text.trimStart rest)).map fun label => String.ofList (Text.trim label)) := by
  have nicknameClosed : '{' ∉ nickname.toList := word.not_mem (by decide)
  rw [classify_declaration shape (trim_quoted _ trimmed (by simp [word.ne_nil])) (by simp),
    ofDeclaration_flat (by simp) (by simp [unopened, nicknameClosed, closed]),
    ofFlat_quoted unquoted word rest ends, String.ofList_toList]

theorem classify_aliased (unquoted : '"' ∉ name.toList) (unopened : '{' ∉ name.toList)
    (word : NicknameWord nickname) :
    classify ("state \"" ++ name ++ "\" as " ++ nickname) = .aliased name nickname none := by
  have trimmed : Text.trim (nickname.toList ++ []) = nickname.toList ++ [] := by
    rw [List.append_nil, word.trim_eq]
  exact classify_quoted (by simp) unquoted unopened word (by simp) (by simp) trimmed

theorem classify_aliasedStereotyped (unquoted : '"' ∉ name.toList) (unopened : '{' ∉ name.toList)
    (word : NicknameWord nickname) (labelled : StereotypeLabel label) :
    classify ("state \"" ++ name ++ "\" as " ++ nickname ++ " <<" ++ label ++ ">>") =
      .aliased name nickname (some label) := by
  have trimmed := trim_label word.trim_eq word.ne_nil label.toList
  rw [List.append_assoc] at trimmed
  have marked : stereotype? (Text.trimStart (' ' :: '<' :: '<' :: label.toList ++ ['>', '>'])) =
      some label.toList := stereotype?_label labelled
  rw [classify_quoted (by simp) unquoted unopened word (by simp; decide) (by simp [labelled.unopened])
    trimmed, marked, Option.map_some, labelled.trim_eq, String.ofList_toList]

theorem classify_stereotyped (bare : BareName name) (labelled : StereotypeLabel label) :
    classify ("state " ++ name ++ " <<" ++ label ++ ">>") = .stereotyped name label := by
  have alone : aliased? (name.toList ++ ' ' :: '<' :: '<' :: label.toList ++ ['>', '>']) = none := by
    rw [List.append_assoc]
    exact aliased?_eq_none bare (.inr ⟨'<', _, .inl rfl, rfl⟩)
  rw [classify_declaration (by simp) (trim_label bare.trim_eq bare.ne_nil label.toList) (by simp),
    ofDeclaration_flat (by simp) (by simp [bare.unopened, labelled.unopened]), ofFlat_eq alone,
    ofStereotyped_label bare labelled]

theorem classify_simple (bare : BareName name) : classify ("state " ++ name) = .simple name none := by
  have alone := aliased?_eq_none bare (.inl rfl)
  rw [List.append_nil] at alone
  rw [classify_declaration (by simp) bare.trim_eq bare.ne_nil,
    ofDeclaration_flat bare.ne_nil bare.unopened, ofFlat_eq alone, ofStereotyped_eq bare.unmarked,
    ofSimple_bare bare]

theorem classify_simpleContent (bare : BareName name)
    (trimmed : Text.trim content.toList = content.toList) (unopened : '{' ∉ content.toList)
    (unmarked : ¬ ['<', '<'] <:+: content.toList) :
    classify ("state " ++ name ++ " : " ++ content) = .simple name (some content) := by
  obtain ⟨tail, begins, kept, trims⟩ := exists_trimmed_tail trimmed
  have shape : Text.trim ("state " ++ name ++ " : " ++ content).toList =
      "state ".toList ++ (name.toList ++ ' ' :: ':' :: tail) := by
    have opened := trims ("state ".toList ++ name.toList)
      (trim_declaration bare.trim_eq bare.ne_nil) (by simp)
    rw [← List.append_assoc, ← opened]
    simp
  have bodyTrimmed : Text.trim (name.toList ++ ' ' :: ':' :: tail) = name.toList ++ ' ' :: ':' :: tail := by
    rw [← trims _ bare.trim_eq bare.ne_nil, Text.trim_trim]
  have tailUnopened : '{' ∉ tail := by
    intro member
    have there : '{' ∈ ' ' :: content.toList := begins.subset member
    exact unopened (by simpa using there)
  have bodyUnmarked : ¬ ['<', '<'] <:+: name.toList ++ ' ' :: ':' :: tail := by
    intro inside
    rcases Text.isInfix_of_not_mem (by decide) inside with before | after
    · exact bare.unmarked before
    · have inTail := Text.isInfix_of_isInfix_cons (by decide) after
      exact unmarked (Text.isInfix_of_isInfix_cons (by decide) (inTail.trans begins.isInfix))
  have alone : aliased? (name.toList ++ ' ' :: ':' :: tail) = none :=
    aliased?_eq_none bare (.inr ⟨':', tail, .inr rfl, rfl⟩)
  rw [classify_of_trim shape bodyTrimmed,
    ofDeclaration_flat (by simp) (by simp [bare.unopened, tailUnopened]), ofFlat_eq alone,
    ofStereotyped_eq bodyUnmarked, ofSimple_content bare, kept, String.ofList_toList]

end Line

/-- Every form of a declaration is read as what it declares. -/
theorem Declares.classify_eq {line : String} {what : Line} (declares : Declares line what) :
    Line.classify line = what := by
  cases declares with
  | composite bare => exact Line.classify_composite bare
  | quotedComposite unquoted unopened unmarked word =>
    exact Line.classify_quotedComposite unquoted unopened unmarked word
  | aliased unquoted unopened word => exact Line.classify_aliased unquoted unopened word
  | aliasedStereotyped unquoted unopened word labelled =>
    exact Line.classify_aliasedStereotyped unquoted unopened word labelled
  | stereotyped bare labelled => exact Line.classify_stereotyped bare labelled
  | simple bare => exact Line.classify_simple bare
  | simpleContent bare trimmed unopened unmarked =>
    exact Line.classify_simpleContent bare trimmed unopened unmarked

namespace Line

variable {source target event : String} {text : List Char}

/-- The checks that come before the search for an arrow and for a colon: a comment, a declaration, the end
of a scope. -/
def TakenEarlier (text : List Char) : Prop :=
  isComment text = true ∨ "state ".toList <+: text ∨ ['}'] <+: text

instance (text : List Char) : Decidable (TakenEarlier text) :=
  inferInstanceAs (Decidable (_ ∨ _ ∨ _))

/-- A line that says something about states which it does not declare. -/
def isStatement : Line → Bool
  | transition .. => true
  | content .. => true
  | _ => false

theorem Declared.isStatement {line : Line} (declared : Declared text line) : line.isStatement = false := by
  cases declared <;> rfl

/-- What an earlier check takes is no transition and no text for a state. -/
theorem ofTrimmed_isStatement (taken : TakenEarlier text) : (ofTrimmed text).isStatement = false := by
  unfold ofTrimmed
  split
  · rfl
  · rename_i unremarked
    split
    · exact (ofDeclaration_declared _).isStatement
    · rename_i undeclared
      have ended : ['}'].isPrefixOf text = true := by
        rcases taken with remark | declares | ends
        · exact absurd (.inr remark) unremarked
        · exact absurd declares (Text.isPrefixOf?_eq_none_iff.mp undeclared)
        · exact List.isPrefixOf_iff_prefix.mpr ends
      rw [if_pos ended]
      rfl

/-- What no earlier check takes is a transition, if there is an arrow in it, or a text for a state. -/
theorem ofTrimmed_of_not_taken (written : text ≠ []) (free : ¬ TakenEarlier text) :
    ofTrimmed text =
      match Arrow.split? text with
      | some (left, right) => ofArrow left right
      | none => ofAnnotation text := by
  unfold TakenEarlier at free
  rw [not_or, not_or] at free
  obtain ⟨unremarked, undeclared, inside⟩ := free
  unfold ofTrimmed
  rw [if_neg (not_or.mpr ⟨written, unremarked⟩), Text.isPrefixOf?_eq_none_iff.mpr undeclared]
  exact if_neg (mt List.isPrefixOf_iff_prefix.mp inside)

/-- The parts of a transition, as they stand on its line. -/
theorem trim_transition (arrow : String) (start : Written source) (ended : Written target) :
    Text.trim (source ++ " " ++ arrow ++ " " ++ target).toList =
      source.toList ++ [' '] ++ (arrow.toList ++ ' ' :: target.toList) := by
  have trimmed := Text.trim_between (' ' :: arrow.toList ++ [' ']) start.trim_eq ended.trim_eq
    start.ne_nil ended.ne_nil
  have parts : (source ++ " " ++ arrow ++ " " ++ target).toList =
      source.toList ++ (' ' :: arrow.toList ++ [' ']) ++ target.toList := by simp
  rw [parts, trimmed]
  simp

theorem trim_labelled (arrow target : String) (start : Written source) (happens : Written event) :
    Text.trim (source ++ " " ++ arrow ++ " " ++ target ++ " : " ++ event).toList =
      source.toList ++ [' '] ++
        (arrow.toList ++ (' ' :: target.toList ++ [' '] ++ ':' :: ' ' :: event.toList)) := by
  have trimmed := Text.trim_between (' ' :: arrow.toList ++ ' ' :: target.toList ++ [' ', ':', ' '])
    start.trim_eq happens.trim_eq start.ne_nil happens.ne_nil
  have parts : (source ++ " " ++ arrow ++ " " ++ target ++ " : " ++ event).toList =
      source.toList ++ (' ' :: arrow.toList ++ ' ' :: target.toList ++ [' ', ':', ' ']) ++
        event.toList := by simp
  rw [parts, trimmed]
  simp

end Line

/-- A line that no earlier check takes is read as what it says. -/
theorem Tells.ofTrimmed_eq {line : String} {what : Line} (tells : Tells line what)
    (free : ¬ Line.TakenEarlier (Text.trim line.toList)) :
    Line.ofTrimmed (Text.trim line.toList) = what := by
  cases tells with
  | @transition source arrow target start apart drawn ended uncut =>
    have left : Text.trim (source.toList ++ [' ']) = source.toList := by
      rw [Text.trim_concat_blank _ Text.isBlank_space, start.trim_eq]
    have right : Text.trim (' ' :: target.toList) = target.toList := by
      rw [Text.trim_cons_blank Text.isBlank_space, ended.trim_eq]
    rw [Line.trim_transition arrow start ended] at free ⊢
    rw [Line.ofTrimmed_of_not_taken (by simp) free, Arrow.split?_arrow apart drawn]
    exact Line.ofArrow_eq_transition_iff.mpr ⟨start, ended, left, _, [], (List.append_nil _).symm,
      by simpa using uncut, right, .silent⟩
  | @labelled source arrow target event start apart drawn ended uncut happens =>
    have left : Text.trim (source.toList ++ [' ']) = source.toList := by
      rw [Text.trim_concat_blank _ Text.isBlank_space, start.trim_eq]
    have right : Text.trim (' ' :: target.toList ++ [' ']) = target.toList := by
      rw [Text.trim_concat_blank _ Text.isBlank_space, Text.trim_cons_blank Text.isBlank_space,
        ended.trim_eq]
    have told : Text.trim (' ' :: event.toList) = event.toList := by
      rw [Text.trim_cons_blank Text.isBlank_space, happens.trim_eq]
    rw [Line.trim_labelled arrow target start happens] at free ⊢
    rw [Line.ofTrimmed_of_not_taken (by simp) free, Arrow.split?_arrow apart drawn]
    exact Line.ofArrow_eq_transition_iff.mpr ⟨start, ended, left, _, _, rfl, by simpa using uncut, right,
      Line.tellsEvent_of_trim happens told⟩
  | @content name text named uncut trimmed apart apartText =>
    obtain ⟨tail, begins, kept, trims⟩ := Line.exists_trimmed_tail trimmed
    have shape : Text.trim (name ++ " : " ++ text).toList = name.toList ++ ' ' :: ':' :: tail := by
      rw [← trims _ named.trim_eq named.ne_nil]
      simp
    have blank : ∀ arrow, Arrow.IsArrow arrow → ' ' ∉ arrow :=
      fun arrow drawn => drawn.not_mem (by decide) (by decide) (by decide)
    have colon : ∀ arrow, Arrow.IsArrow arrow → ':' ∉ arrow :=
      fun arrow drawn => drawn.not_mem (by decide) (by decide) (by decide)
    have tailApart : Arrow.Absent tail := (apartText.cons blank).of_isInfix begins.isInfix
    have unsplit : Arrow.split? (name.toList ++ ' ' :: ':' :: tail) = none :=
      Arrow.split?_eq_none_iff.mpr (apart.append_cons (tailApart.cons colon) blank)
    have spelled : Text.trim (name.toList ++ [' ']) = name.toList := by
      rw [Text.trim_concat_blank _ Text.isBlank_space, named.trim_eq]
    rw [shape] at free ⊢
    rw [Line.ofTrimmed_of_not_taken (by simp) free, unsplit]
    exact Line.ofAnnotation_eq_content_iff.mpr ⟨named, name.toList ++ [' '], tail, by simp,
      by simpa using uncut, spelled, by rw [kept, String.ofList_toList]⟩

theorem Tells.isStatement {line : String} {what : Line} (tells : Tells line what) :
    what.isStatement = true := by
  cases tells <;> rfl

/-- A line is read as what it says exactly if no earlier check takes it. -/
theorem Tells.classify_eq_iff {line : String} {what : Line} (tells : Tells line what) :
    Line.classify line = what ↔ ¬ Line.TakenEarlier (Text.trim line.toList) := by
  constructor
  · intro read taken
    have other := Line.ofTrimmed_isStatement taken
    rw [← Line.classify, read, tells.isStatement] at other
    cases other
  · exact tells.ofTrimmed_eq

/-- Every form of the grammar is read as what it was written for: a declaration always, any other line
exactly if no earlier check takes it. -/
theorem Line.classify_forms :
    (∀ line what, Declares line what → classify line = what) ∧
      ∀ line what, Tells line what →
        (classify line = what ↔ ¬ TakenEarlier (Text.trim line.toList)) :=
  ⟨fun _ _ declares => declares.classify_eq, fun _ _ tells => tells.classify_eq_iff⟩

/-- A name that ends in the word `as` before a stereotype, and a transition between names that look like the
start of an arrow and like another arrow. -/
theorem Line.classify_forms_lookalikes :
    classify "state Save as <<choice>>" = .stereotyped "Save as" "choice" ∧
      classify "a- -left-> b->c : d:e" = .transition "a-" "b->c" (some "d:e") := by
  have bare : BareName "Save as" := by
    refine ⟨⟨by decide, by decide⟩, by decide, by decide, by decide, by decide, ?_, ?_⟩
    · simp [List.infix_cons_iff, List.cons_prefix_cons]
    · intro before after opens closes inside
      simp [List.infix_cons_iff, List.cons_prefix_cons] at inside
  have labelled : StereotypeLabel "choice" := ⟨by decide, by decide, by decide⟩
  have drawn : Arrow.IsArrow "-left->".toList := ⟨0, "left".toList, 1, .inr (by decide), by decide⟩
  have start : Written "a-" := ⟨by decide, by decide⟩
  have ended : Written "b->c" := ⟨by decide, by decide⟩
  have happens : Written "d:e" := ⟨by decide, by decide⟩
  have tells := Tells.labelled start (Arrow.absent_of_not_mem (by decide)) drawn ended (by decide) happens
  have free : ¬ TakenEarlier (Text.trim "a- -left-> b->c : d:e".toList) := by decide
  constructor
  · exact classify_forms.1 _ _ (.stereotyped bare labelled)
  · exact (classify_forms.2 _ _ tells).mpr free

/-- A transition from a name that is a brace is a form of the grammar, but the end of a scope takes its
line. -/
theorem Line.classify_brace_arrow :
    Tells "\x7d --> B" (.transition "\x7d" "B" none) ∧ classify "\x7d --> B" = .close := by
  have brace : Written "\x7d" := ⟨by decide, by decide⟩
  have ended : Written "B" := ⟨by decide, by decide⟩
  have drawn : Arrow.IsArrow "-->".toList := ⟨1, [], 0, .inl rfl, by decide⟩
  have apart : Arrow.Absent "\x7d".toList := Arrow.absent_of_not_mem (by decide)
  exact ⟨.transition brace apart drawn ended (by decide), by decide⟩

end Statechart
