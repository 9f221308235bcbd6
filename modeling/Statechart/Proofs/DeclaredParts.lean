import Statechart.Proofs.Declarations

/-! Whatever follows the word `state`, it is read as one of a few lines, and each part of such a line stands
in the text that it was read from. The parts are taken off one after the other, each up to a character that
would end it, so no part contains that character. A name can be blank, but only where blanks stand between
quotation marks: any other name has lost its blanks before it is seen whether something is left of it. -/
namespace Statechart

/-- A name keeps what is in quotation marks, or it is what is left without the blanks around it. -/
theorem Name.unquote_cases (raw : List Char) :
    Text.trim raw = '"' :: unquote raw ++ ['"'] ∨ unquote raw = Text.trim raw := by
  unfold unquote
  split
  · rename_i inner quoted
    split
    · rename_i closed
      left
      rw [quoted, List.cons_append, List.dropLast_append_getLast? _ closed]
    · right
      exact quoted.symm
  · exact .inr rfl

theorem Name.trim_ne_nil_of_unquote {raw : List Char} (written : unquote raw ≠ []) :
    Text.trim raw ≠ [] := by
  intro blank
  simp [unquote, blank] at written

/-- A name as it stands in a text. -/
structure NameIn (text : List Char) (name : String) : Prop where
  inside : name.toList <:+: text
  unopened : '{' ∉ name.toList
  /-- Blanks are a name only in quotation marks. -/
  quoted_of_blank : Text.trim name.toList = [] → '"' :: name.toList ++ ['"'] <:+: text

/-- A nickname as it stands in a text. -/
structure NicknameIn (text : List Char) (nickname : String) : Prop extends NicknameWord nickname where
  inside : nickname.toList <:+: text

/-- A stereotype as it stands in a text. -/
structure LabelIn (text : List Char) (label : String) : Prop extends StereotypeLabel label where
  inside : label.toList <:+: text

section Wider

variable {part text : List Char} {written : String}

theorem NameIn.of_isInfix (named : NameIn part written) (wider : part <:+: text) :
    NameIn text written where
  inside := named.inside.trans wider
  unopened := named.unopened
  quoted_of_blank blank := (named.quoted_of_blank blank).trans wider

theorem NicknameIn.of_isInfix (short : NicknameIn part written) (wider : part <:+: text) :
    NicknameIn text written where
  toNicknameWord := short.toNicknameWord
  inside := short.inside.trans wider

theorem LabelIn.of_isInfix (labelled : LabelIn part written) (wider : part <:+: text) :
    LabelIn text written where
  toStereotypeLabel := labelled.toStereotypeLabel
  inside := labelled.inside.trans wider

end Wider

namespace Line

variable {text part head name short label : List Char} {stereotype : Option (List Char)} {line : Line}

theorem stereotype?_isInfix (read : stereotype? text = some label) : '>' ∉ label ∧ label <:+: text := by
  obtain ⟨free, rest, rfl⟩ := stereotype?_eq_some_iff.mp read
  exact ⟨free, ['<', '<'], '>' :: '>' :: rest, by simp⟩

/-- What is read as a nickname can be one, and so can its stereotype. -/
theorem nickname?_parts (read : nickname? text = some (short, stereotype)) :
    NicknameIn text (String.ofList short) ∧ ∀ label ∈ stereotype, '>' ∉ label ∧ label <:+: text := by
  obtain ⟨before, first, last, later, -, -, -, rfl, rfl, written, rfl⟩ := nickname?_eq_some_iff.mp read
  have started : Text.trimStart later <:+ before ++ [first, 'a', 's', last] ++ later :=
    (List.dropWhile_suffix _).trans (List.suffix_append _ _)
  refine ⟨⟨⟨by simpa using written, ?_⟩, ?_⟩, ?_⟩
  · intro c member
    rw [String.toList_ofList] at member
    simpa [endsNickname, and_assoc] using List.mem_takeWhile_imp member
  · rw [String.toList_ofList]
    exact (List.takeWhile_prefix _).isInfix.trans started.isInfix
  · intro label marked
    obtain ⟨free, inside⟩ := stereotype?_isInfix marked
    have dropped : Text.trimStart ((Text.trimStart later).dropWhile fun c => !endsNickname c) <:+
        Text.trimStart later := (List.dropWhile_suffix _).trans (List.dropWhile_suffix _)
    exact ⟨free, inside.trans (dropped.trans started).isInfix⟩

/-- An aliased name stands at the start of a text, in quotation marks or as a word, and its nickname is read
off what follows. -/
theorem aliased?_eq_some (read : aliased? text = some (name, short, stereotype)) :
    ∃ after, nickname? after = some (short, stereotype) ∧
      (text = '"' :: name ++ '"' :: after ∨
        text = name ++ after ∧ name ≠ [] ∧ ∀ c ∈ name, Text.isBlank c = false) := by
  unfold aliased? at read
  dsimp only at read
  split at read
  · rename_i parts asQuoted
    cases read
    obtain ⟨⟨written, after⟩, quoted, named⟩ := Option.bind_eq_some_iff.mp asQuoted
    obtain ⟨_, there, same⟩ := Option.map_eq_some_iff.mp named
    cases same
    refine ⟨after, there, .inl ?_⟩
    unfold quoted? at quoted
    split at quoted
    · rw [(Text.cut?_eq_some_iff.mp quoted).2]
      rfl
    · cases quoted
  · split at read
    · cases read
    · rename_i word after nonempty split
      obtain ⟨_, there, same⟩ := Option.map_eq_some_iff.mp read
      cases same
      obtain ⟨joined, solid⟩ := word_eq split
      exact ⟨after, there, .inr ⟨joined, nonempty, solid⟩⟩

/-- The parts of an aliased name. A word is not blank. -/
theorem aliased?_parts (unopened : '{' ∉ text) (read : aliased? text = some (name, short, stereotype)) :
    NameIn text (String.ofList name) ∧ NicknameIn text (String.ofList short) ∧
      ∀ label ∈ stereotype, '>' ∉ label ∧ label <:+: text := by
  obtain ⟨after, named, shape⟩ := aliased?_eq_some read
  have ends : after <:+: text := by
    rcases shape with rfl | ⟨rfl, -⟩
    · exact ⟨'"' :: name ++ ['"'], [], by simp⟩
    · exact (List.suffix_append name after).isInfix
  have begins : name <:+: text := by
    rcases shape with rfl | ⟨rfl, -⟩
    · exact ⟨['"'], '"' :: after, by simp⟩
    · exact (List.prefix_append name after).isInfix
  obtain ⟨word, labelled⟩ := nickname?_parts named
  refine ⟨⟨?_, ?_, ?_⟩, word.of_isInfix ends, ?_⟩
  · rwa [String.toList_ofList]
  · rw [String.toList_ofList]
    exact fun member => unopened (begins.subset member)
  · rw [String.toList_ofList]
    intro blank
    rcases shape with rfl | ⟨-, written, solid⟩
    · exact ⟨[], after, by simp⟩
    · rw [Text.trim_eq_self solid] at blank
      exact absurd blank written
  · intro label marked
    obtain ⟨free, inside⟩ := labelled label marked
    exact ⟨free, inside.trans ends⟩

/-- A stereotype loses the blanks around it. -/
theorem labelIn_trim (unopened : '{' ∉ text) (free : '>' ∉ label) (inside : label <:+: text) :
    LabelIn text (String.ofList (Text.trim label)) := by
  have trimmed := Text.trim_isInfix label
  refine ⟨⟨?_, ?_, ?_⟩, ?_⟩
  all_goals rw [String.toList_ofList]
  · exact Text.trim_trim label
  · exact fun member => free (trimmed.subset member)
  · exact fun member => unopened ((trimmed.trans inside).subset member)
  · exact trimmed.trans inside

/-- What is more than blanks as it was written is blank only if it was written in quotation marks. -/
theorem nameIn_unquote (unopened : '{' ∉ text) (inside : part <:+: text) (written : Text.trim part ≠ []) :
    NameIn text (String.ofList (Name.unquote part)) := by
  have whole := (Text.trim_isInfix part).trans inside
  have kept : Name.unquote part <:+: Text.trim part := by
    rcases Name.unquote_cases part with quoted | bare
    · rw [quoted]
      exact ⟨['"'], ['"'], rfl⟩
    · rw [bare]
  refine ⟨?_, ?_, ?_⟩
  all_goals rw [String.toList_ofList]
  · exact kept.trans whole
  · exact fun member => unopened ((kept.trans whole).subset member)
  · intro blank
    rcases Name.unquote_cases part with quoted | bare
    · rwa [quoted] at whole
    · rw [bare, Text.trim_trim] at blank
      exact absurd blank written

/-- What can be read off a declaration: nothing, or what one of the forms declares, with parts that stand in
its text. A name that is not checked before its quotation marks are taken off may be empty. -/
inductive Declared (text : List Char) : Line → Prop where
  | ignored : Declared text ignored
  | composite {name : String} {nickname : Option String} (named : NameIn text name)
      (short : ∀ word ∈ nickname, NicknameIn text word) : Declared text (.composite name nickname)
  | aliased {name nickname : String} {stereotype : Option String} (named : NameIn text name)
      (short : NicknameIn text nickname) (labelled : ∀ label ∈ stereotype, LabelIn text label) :
      Declared text (.aliased name nickname stereotype)
  | stereotyped {name label : String} (named : NameIn text name) (written : name ≠ "")
      (labelled : LabelIn text label) : Declared text (.stereotyped name label)
  | simple {name : String} {content : Option String} (named : NameIn text name) (written : name ≠ "")
      (inside : ∀ remark ∈ content, remark.toList <:+: text) : Declared text (.simple name content)

theorem Declared.of_isInfix (declared : Declared part line) (wider : part <:+: text) :
    Declared text line := by
  cases declared with
  | ignored => exact .ignored
  | composite named short =>
    exact .composite (named.of_isInfix wider) fun word member => (short word member).of_isInfix wider
  | aliased named short labelled =>
    exact .aliased (named.of_isInfix wider) (short.of_isInfix wider)
      fun label member => (labelled label member).of_isInfix wider
  | stereotyped named written labelled =>
    exact .stereotyped (named.of_isInfix wider) written (labelled.of_isInfix wider)
  | simple named written inside =>
    exact .simple (named.of_isInfix wider) written fun remark member => (inside remark member).trans wider

theorem ofHead_declared (unopened : '{' ∉ head) (trimmed : Text.trim head = head) :
    Declared head (ofHead head) := by
  unfold ofHead
  extract_lets named
  have part : named <:+: head ∧ Text.trim named = named := by
    unfold named
    split
    · rename_i before after cut
      refine ⟨(Text.trim_isInfix before).trans ?_, Text.trim_trim before⟩
      rw [Text.eq_of_cut? cut, List.append_assoc]
      exact (List.prefix_append before _).isInfix
    · exact ⟨List.infix_rfl, trimmed⟩
  obtain ⟨inside, kept⟩ := part
  have closed : '{' ∉ named := fun member => unopened (inside.subset member)
  split
  · exact .ignored
  · rename_i written
    refine Declared.of_isInfix ?_ inside
    split
    · rename_i read
      obtain ⟨name, short, -⟩ := aliased?_parts closed read
      exact .composite name (by simpa using short)
    · rw [← kept] at written
      exact .composite (nameIn_unquote closed List.infix_rfl written) (by simp)

theorem ofSimple_declared (unopened : '{' ∉ text) : Declared text (ofSimple text) := by
  have named {written : List Char} {content : Option String} (inside : written <:+: text)
      (remarked : ∀ remark ∈ content, remark.toList <:+: text) :
      Declared text (if Name.unquote written = [] then ignored
        else .simple (String.ofList (Name.unquote written)) content) := by
    split
    · exact .ignored
    · rename_i nonempty
      exact .simple (nameIn_unquote unopened inside (Name.trim_ne_nil_of_unquote nonempty))
        (by simpa using nonempty) remarked
  unfold ofSimple
  split
  rename_i name remark parts
  split at parts
  · rename_i before after cut
    cases parts
    have shape := (Text.cut?_eq_some_iff.mp cut).2
    refine named ?_ ?_
    · rw [shape]
      exact (List.prefix_append before _).isInfix
    · have later : after <:+ text := ⟨before ++ [':'], by simp [shape]⟩
      simpa using (Text.trim_isInfix after).trans later.isInfix
  · cases parts
    exact named List.infix_rfl (by simp)

theorem ofStereotyped_declared (unopened : '{' ∉ text) : Declared text (ofStereotyped text) := by
  unfold ofStereotyped
  split
  · rename_i name label read
    unfold stereotyped? at read
    split at read
    · split at read
      · cases read
      · rename_i found _
        cases read
        obtain ⟨rest, rfl, marked, -⟩ := Text.seek_eq_some_iff.mp found
        obtain ⟨free, inside⟩ := stereotype?_isInfix marked
        have dropped : Text.trimStart rest <:+ rest := List.dropWhile_suffix _
        have later : label <:+: name ++ rest :=
          inside.trans (dropped.trans (List.suffix_append name rest)).isInfix
        split
        · exact .ignored
        · rename_i nonempty
          exact .stereotyped (nameIn_unquote unopened (List.prefix_append name rest).isInfix
            (Name.trim_ne_nil_of_unquote nonempty)) (by simpa using nonempty)
            (labelIn_trim unopened free later)
    · cases read
  · exact ofSimple_declared unopened

theorem ofFlat_declared (unopened : '{' ∉ text) : Declared text (ofFlat text) := by
  unfold ofFlat
  split
  · split
    · rename_i read
      obtain ⟨name, short, labelled⟩ := aliased?_parts unopened read
      refine .aliased name short ?_
      intro label member
      obtain ⟨marked, there, rfl⟩ := Option.map_eq_some_iff.mp member
      obtain ⟨free, inside⟩ := labelled marked there
      exact labelIn_trim unopened free inside
    · exact ofStereotyped_declared unopened
  · exact ofStereotyped_declared unopened

/-- Whatever a declaration says, it is read as one of the lines that declare something, or as nothing. -/
theorem ofDeclaration_declared (text : List Char) : Declared text (ofDeclaration text) := by
  unfold ofDeclaration
  split
  · exact .ignored
  · split
    · rename_i before after cut
      obtain ⟨free, shape⟩ := Text.cut?_eq_some_iff.mp cut
      have closed : '{' ∉ Text.trim before := fun member => free ((Text.trim_isInfix before).subset member)
      refine (ofHead_declared closed (Text.trim_trim before)).of_isInfix ?_
      rw [shape]
      exact (Text.trim_isInfix before).trans (List.prefix_append before _).isInfix
    · rename_i uncut
      refine ofFlat_declared fun member => ?_
      obtain ⟨front, back, shape⟩ := List.append_of_mem member
      exact Text.cut?_eq_none_iff.mp uncut ⟨front, back, by simp [shape]⟩

end Line

end Statechart
