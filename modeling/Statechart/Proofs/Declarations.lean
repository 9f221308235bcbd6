import Mathlib.Data.List.TakeWhile
import Statechart.Proofs.Lines
import Statechart.Proofs.Names

/-! How a declaration is read. The parts of a declaration must not contain what would end them; then each
check finds the part that is written for it, and no check finds anything in a part that is written for
another one. -/
namespace Statechart

/-- A text that is not empty and has no blanks at its ends. -/
structure Written (text : String) : Prop where
  ne_empty : text ≠ ""
  trim_eq : Text.trim text.toList = text.toList

/-- A name that is written without quotation marks, and without anything that could end it. -/
structure BareName (name : String) : Prop extends Written name where
  unquoted : '"' ∉ name.toList
  unopened : '{' ∉ name.toList
  uncut : ':' ∉ name.toList
  unbroken : '\n' ∉ name.toList
  unmarked : ¬ ['<', '<'] <:+: name.toList
  /-- The word `as` does not stand between blanks. -/
  unaliased : ∀ before after, Text.isBlank before = true → Text.isBlank after = true →
    ¬ [before, 'a', 's', after] <:+: name.toList

/-- A word that can be a nickname. -/
structure NicknameWord (nickname : String) : Prop where
  ne_empty : nickname ≠ ""
  unended : ∀ c ∈ nickname.toList, Text.isBlank c = false ∧ c ≠ '<' ∧ c ≠ '{' ∧ c ≠ ':'

/-- A text that can be a stereotype. -/
structure StereotypeLabel (label : String) : Prop where
  trim_eq : Text.trim label.toList = label.toList
  unended : '>' ∉ label.toList
  unopened : '{' ∉ label.toList

theorem Written.ne_nil {text : String} (written : Written text) : text.toList ≠ [] := by
  simpa using written.ne_empty

theorem NicknameWord.ne_nil {nickname : String} (word : NicknameWord nickname) :
    nickname.toList ≠ [] := by
  simpa using word.ne_empty

theorem NicknameWord.not_mem {nickname : String} (word : NicknameWord nickname) {c : Char}
    (ends : Line.endsNickname c = true) : c ∉ nickname.toList := by
  intro member
  obtain ⟨solid, other, closed, uncut⟩ := word.unended c member
  simp [Line.endsNickname, solid, other, closed, uncut] at ends

theorem NicknameWord.trim_eq {nickname : String} (word : NicknameWord nickname) :
    Text.trim nickname.toList = nickname.toList :=
  Text.trim_eq_self fun c member => (word.unended c member).1

namespace Line

variable {name nickname label : String} {text rest body : List Char}

/-- A stereotype stands between its marks, and the first `>` belongs to the closing one. -/
theorem stereotype?_eq_some_iff {label : List Char} :
    stereotype? text = some label ↔
      '>' ∉ label ∧ ∃ rest, text = '<' :: '<' :: label ++ '>' :: '>' :: rest := by
  constructor
  · intro read
    unfold stereotype? at read
    split at read
    · rename_i marked
      simp only [List.span_eq_takeWhile_dropWhile] at read
      split at read
      · rename_i rest closing
        cases read
        refine ⟨?_, rest, ?_⟩
        · intro member
          simpa using List.mem_takeWhile_imp member
        · rw [← closing, List.cons_append, List.cons_append, List.takeWhile_append_dropWhile]
      · cases read
    · cases read
  · rintro ⟨free, rest, rfl⟩
    have inside : ∀ c ∈ label, (c != '>') = true := by
      intro c member
      simpa using fun same : c = '>' => free (same ▸ member)
    have closes : ∀ c ∈ ('>' :: '>' :: rest).head?, (c != '>') = false := by simp
    simp only [stereotype?, List.cons_append, Text.span_append inside closes]

/-- A stereotype starts with its mark. -/
theorem isPrefix_of_stereotype? (read : stereotype? text ≠ none) : ['<', '<'] <+: text := by
  obtain ⟨label, marked⟩ := Option.ne_none_iff_exists'.mp read
  obtain ⟨-, rest, rfl⟩ := stereotype?_eq_some_iff.mp marked
  exact ⟨label ++ '>' :: '>' :: rest, rfl⟩

/-- No stereotype follows a name in a text in which the mark does not occur. -/
theorem stereotyped?_eq_none (unmarked : ¬ ['<', '<'] <:+: text) : stereotyped? text = none := by
  have fails : ∀ rest, rest <:+ text → stereotype? (Text.trimStart rest) = none := by
    intro rest inside
    by_contra read
    have started : Text.trimStart rest <:+ rest := List.dropWhile_suffix _
    exact unmarked ((isPrefix_of_stereotype? read).isInfix.trans (started.trans inside).isInfix)
  unfold stereotyped?
  rw [Text.seek_eq_none_iff.mpr fails]

theorem stereotype?_label (labelled : StereotypeLabel label) :
    stereotype? ('<' :: '<' :: label.toList ++ ['>', '>']) = some label.toList :=
  stereotype?_eq_some_iff.mpr ⟨labelled.unended, [], rfl⟩

/-- A nickname is read exactly behind the word `as` between blanks. It goes on up to the first character that
ends nicknames, and it is not empty. A stereotype may follow it. -/
theorem nickname?_eq_some_iff {short : List Char} {stereotype : Option (List Char)} :
    nickname? text = some (short, stereotype) ↔
      ∃ before first last later, (∀ c ∈ before, Text.isBlank c = true) ∧ Text.isBlank first = true ∧
        Text.isBlank last = true ∧ text = before ++ [first, 'a', 's', last] ++ later ∧
        short = (Text.trimStart later).takeWhile (fun c => !endsNickname c) ∧ short ≠ [] ∧
        stereotype =
          stereotype? (Text.trimStart ((Text.trimStart later).dropWhile fun c => !endsNickname c)) := by
  constructor
  · intro read
    unfold nickname? at read
    split at read
    · cases read
    · rename_i opening tail
      split at read
      · rename_i opens
        split at read
        · rename_i last later started
          split at read
          · rename_i closes
            simp only [List.span_eq_takeWhile_dropWhile] at read
            split at read
            · cases read
            · rename_i named
              cases read
              have blanks : ∀ c ∈ (opening :: tail).takeWhile Text.isBlank, Text.isBlank c = true :=
                fun c => List.mem_takeWhile_imp
              have begun : (opening :: tail).takeWhile Text.isBlank ≠ [] := by simp [opens]
              obtain ⟨before, first, shape⟩ := (List.eq_nil_or_concat _).resolve_left begun
              have joined := List.takeWhile_append_dropWhile (p := Text.isBlank) (l := opening :: tail)
              rw [List.concat_eq_append] at shape
              rw [shape] at joined
              rw [shape, List.forall_mem_append, List.forall_mem_singleton] at blanks
              refine ⟨before, first, last, later, blanks.1, blanks.2, closes, ?_, rfl, named, rfl⟩
              rw [← joined]
              show before ++ [first] ++ Text.trimStart (opening :: tail) = _
              rw [started]
              simp
          · cases read
        · cases read
      · cases read
  · rintro ⟨before, first, last, later, blanks, opens, closes, rfl, rfl, named, rfl⟩
    have started : Text.trimStart (before ++ [first, 'a', 's', last] ++ later) =
        'a' :: 's' :: last :: later := by
      have solid : Text.isBlank 'a' = false := by decide
      unfold Text.trimStart
      rw [List.append_assoc, List.dropWhile_append_of_pos blanks]
      simp [opens, solid]
    have opening : ∃ c tail, before ++ [first, 'a', 's', last] ++ later = c :: tail ∧
        Text.isBlank c = true := by
      cases before with
      | nil => exact ⟨first, _, rfl, opens⟩
      | cons c before => exact ⟨c, _, rfl, blanks c List.mem_cons_self⟩
    obtain ⟨c, tail, shape, blank⟩ := opening
    rw [shape] at started ⊢
    unfold nickname?
    simp only [blank, started, closes, List.span_eq_takeWhile_dropWhile, if_neg named]
    simp

/-- What a name can end before on its line: nothing, or a blank and the mark that follows it. -/
def EndsName (rest : List Char) : Prop :=
  rest = [] ∨ ∃ c later, (c = '<' ∨ c = ':') ∧ rest = ' ' :: c :: later

/-- No nickname is read off the rest of a bare name, whatever mark follows it. -/
theorem nickname?_eq_none
    (unaliased : ∀ before after, Text.isBlank before = true → Text.isBlank after = true →
      ¬ [before, 'a', 's', after] <:+: text) (ends : EndsName rest) :
    nickname? (text ++ rest) = none := by
  rw [Option.eq_none_iff_forall_ne_some]
  intro parts read
  obtain ⟨before, first, last, later, blanks, opens, closes, shape, goesOn, named, -⟩ :=
    nickname?_eq_some_iff.mp read
  have outside (within : before ++ [first, 'a', 's', last] <+: text) : False :=
    unaliased first last opens closes ((List.suffix_append before _).isInfix.trans within.isInfix)
  rcases ends with rfl | ⟨mark, more, marks, rfl⟩
  · rw [List.append_nil] at shape
    exact outside ⟨later, shape.symm⟩
  · have solid :
        Text.isBlank mark = false ∧ endsNickname mark = true ∧ mark ≠ 'a' ∧ mark ≠ 's' := by
      rcases marks with rfl | rfl <;> decide
    have free : mark ∉ before ++ [first, 'a', 's', last] := by
      intro member
      have blank : mark ∈ before ∨ mark = first ∨ mark = last → Text.isBlank mark = true := by
        rintro (inside | rfl | rfl)
        · exact blanks mark inside
        · exact opens
        · exact closes
      have other : Text.isBlank mark = true := blank (by simpa [solid.2.2] using member)
      rw [solid.1] at other
      cases other
    rw [List.append_cons] at shape
    have reached := Text.isPrefix_of_not_mem free ⟨later, shape.symm⟩
    rcases List.prefix_concat_iff.mp reached with whole | within
    · -- The word ends with the blank before the mark, so the nickname would start with the mark.
      rw [whole] at shape
      obtain rfl : mark :: more = later := List.append_cancel_left shape
      rw [Text.trimStart_eq_self_iff.mpr (by simp [solid.1])] at goesOn
      exact named (by simp [goesOn, solid.2.1])
    · exact outside within

theorem word_eq {word after : List Char} (split : Text.word text = (word, after)) :
    text = word ++ after ∧ ∀ c ∈ word, Text.isBlank c = false := by
  rw [Text.word, List.span_eq_takeWhile_dropWhile] at split
  cases split
  refine ⟨List.takeWhile_append_dropWhile.symm, fun c member => ?_⟩
  simpa using List.mem_takeWhile_imp member

/-- A bare name is not taken for one with a nickname, whatever mark follows it. -/
theorem aliased?_eq_none (bare : BareName name) (ends : EndsName rest) :
    aliased? (name.toList ++ rest) = none := by
  have unquoted : quoted? (name.toList ++ rest) = none := by
    obtain ⟨first, others, spelled⟩ := List.exists_cons_of_ne_nil bare.ne_nil
    unfold quoted?
    split
    · rename_i shape
      rw [spelled, List.cons_append] at shape
      cases shape
      exact absurd (by simp [spelled]) bare.unquoted
    · rfl
  unfold aliased?
  rw [unquoted]
  dsimp only [Option.bind_none]
  split
  · rfl
  · rename_i word after _ split
    obtain ⟨joined, solid⟩ := word_eq split
    have within : word <+: name.toList := by
      rcases ends with rfl | ⟨c, later, -, rfl⟩
      · rw [List.append_nil] at joined
        exact ⟨after, joined.symm⟩
      · have free : ' ' ∉ word := fun member => absurd (solid ' ' member) (by decide)
        exact Text.isPrefix_of_not_mem free ⟨after, joined.symm⟩
    obtain ⟨tail, spelled⟩ := within
    rw [← spelled, List.append_assoc] at joined
    obtain rfl := List.append_cancel_left joined
    have unaliased : ∀ before after, Text.isBlank before = true → Text.isBlank after = true →
        ¬ [before, 'a', 's', after] <:+: tail := by
      intro before after opens closes inside
      have later : tail <:+ name.toList := ⟨word, spelled⟩
      exact bare.unaliased before after opens closes (inside.trans later.isInfix)
    rw [nickname?_eq_none unaliased ends]
    rfl

theorem unquote_eq_trim (unquoted : '"' ∉ text) : Name.unquote text = Text.trim text := by
  unfold Name.unquote
  split
  · rename_i inner shape
    have member : '"' ∈ Text.trim text := by simp [shape]
    exact absurd ((Text.trim_isInfix text).subset member) unquoted
  · rfl

/-- Without the mark of a stereotype, all that precedes the brace is read. -/
theorem ofHead_eq (unmarked : ¬ ['<', '<'] <:+: text) (written : text ≠ []) :
    ofHead text =
      match aliased? text with
      | some (name, nickname, _) => composite (String.ofList name) (some (String.ofList nickname))
      | none => composite (String.ofList (Name.unquote text)) none := by
  unfold ofHead
  rw [Text.cut?_eq_none_iff.mpr unmarked]
  exact if_neg written

/-- A name at the head of a declaration that opens a brace. -/
theorem ofHead_bare (bare : BareName name) : ofHead name.toList = .composite name none := by
  have alone := aliased?_eq_none bare (.inl rfl)
  rw [List.append_nil] at alone
  rw [ofHead_eq bare.unmarked bare.ne_nil, alone]
  dsimp only
  rw [unquote_eq_trim bare.unquoted, bare.trim_eq, String.ofList_toList]

/-- What is read of a nickname and what follows it. -/
theorem nickname?_as (word : NicknameWord nickname) (rest : List Char)
    (ends : ∀ c ∈ rest.head?, endsNickname c = true) :
    nickname? (" as ".toList ++ (nickname.toList ++ rest)) =
      some (nickname.toList, stereotype? (Text.trimStart rest)) := by
  have inside : ∀ c ∈ nickname.toList, (!endsNickname c) = true := by
    intro c member
    obtain ⟨solid, other, closed, uncut⟩ := word.unended c member
    simp [endsNickname, solid, other, closed, uncut]
  have outside : ∀ c ∈ rest.head?, (!endsNickname c) = false := by
    intro c first
    simp [ends c first]
  have started : Text.trimStart (nickname.toList ++ rest) = nickname.toList ++ rest := by
    apply Text.trimStart_eq_self_iff.mpr
    intro c first
    rw [List.head?_append_of_ne_nil _ word.ne_nil] at first
    exact (word.unended c (List.mem_of_head? first)).1
  have split := Text.span_append inside outside
  rw [List.span_eq_takeWhile_dropWhile, Prod.mk.injEq] at split
  apply nickname?_eq_some_iff.mpr
  refine ⟨[], ' ', ' ', nickname.toList ++ rest, by simp, Text.isBlank_space, Text.isBlank_space, rfl, ?_,
    word.ne_nil, ?_⟩
  · rw [started, split.1]
  · rw [started, split.2]

/-- What is read of a quoted name, its nickname, and what follows them. -/
theorem aliased?_quoted (unquoted : '"' ∉ text) (word : NicknameWord nickname) (rest : List Char)
    (ends : ∀ c ∈ rest.head?, endsNickname c = true) :
    aliased? ('"' :: text ++ '"' :: (" as ".toList ++ (nickname.toList ++ rest))) =
      some (text, nickname.toList, stereotype? (Text.trimStart rest)) := by
  have split : quoted? ('"' :: text ++ '"' :: (" as ".toList ++ (nickname.toList ++ rest))) =
      some (text, " as ".toList ++ (nickname.toList ++ rest)) :=
    Text.cut?_eq_some_iff.mpr ⟨unquoted, rfl⟩
  unfold aliased?
  rw [split]
  dsimp only [Option.bind_some]
  rw [nickname?_as word rest ends]
  rfl

/-- A quoted name at the head of a declaration that opens a brace. -/
theorem ofHead_quoted (unquoted : '"' ∉ text) (unmarked : ¬ ['<', '<'] <:+: text)
    (word : NicknameWord nickname) :
    ofHead ('"' :: text ++ '"' :: (" as ".toList ++ nickname.toList)) =
      .composite (String.ofList text) (some nickname) := by
  have read := aliased?_quoted unquoted word [] (by simp)
  rw [List.append_nil] at read
  have outside : ¬ ['<', '<'] <:+: '"' :: text ++ '"' :: (" as ".toList ++ nickname.toList) := by
    intro inside
    rcases Text.isInfix_of_not_mem (by decide) inside with before | after
    · exact unmarked (Text.isInfix_of_isInfix_cons (by decide) before)
    · have member : '<' ∈ " as ".toList ++ nickname.toList := after.subset List.mem_cons_self
      exact absurd (by simpa using member) (word.not_mem (by decide))
  rw [ofHead_eq outside (by simp), read]
  dsimp only
  rw [String.ofList_toList]

/-- What is not read as a name with a nickname is read for a stereotype. -/
theorem ofFlat_eq (unaliased : aliased? text = none) : ofFlat text = ofStereotyped text := by
  unfold ofFlat
  rw [unaliased]
  exact ite_self _

/-- A declaration without brace that starts with a quoted name. -/
theorem ofFlat_quoted (unquoted : '"' ∉ text) (word : NicknameWord nickname) (rest : List Char)
    (ends : ∀ c ∈ rest.head?, endsNickname c = true) :
    ofFlat ('"' :: text ++ '"' :: (" as ".toList ++ (nickname.toList ++ rest))) =
      .aliased (String.ofList text) nickname
        ((stereotype? (Text.trimStart rest)).map fun label => String.ofList (Text.trim label)) := by
  have connected : Text.occurs " as ".toList
      ('"' :: text ++ '"' :: (" as ".toList ++ (nickname.toList ++ rest))) = true := by
    rw [Text.occurs, ← Option.ne_none_iff_isSome, ne_eq, Text.cut?_eq_none_iff, not_not]
    exact ⟨'"' :: text ++ ['"'], nickname.toList ++ rest, by simp⟩
  unfold ofFlat
  rw [if_pos connected, aliased?_quoted unquoted word rest ends]
  dsimp only
  rw [String.ofList_toList]

/-- The first stereotype behind a bare name is the one that is written there. -/
theorem stereotyped?_label (bare : BareName name) (labelled : StereotypeLabel label) :
    stereotyped? (name.toList ++ ' ' :: '<' :: '<' :: label.toList ++ ['>', '>']) =
      some (name.toList, label.toList) := by
  obtain ⟨back, shape⟩ : ∃ back, back = ' ' :: '<' :: '<' :: label.toList ++ ['>', '>'] := ⟨_, rfl⟩
  have fails : ∀ part, part ≠ [] → part <:+ name.toList →
      stereotype? (Text.trimStart (part ++ back)) = none := by
    intro part written inside
    -- The name ends in something other than a blank, so something is left of every part of it.
    have left : Text.trimStart part ≠ [] := by
      intro blank
      have ended := (Text.trim_eq_self_iff.mp bare.trim_eq).2
      obtain ⟨front, spelled⟩ := inside
      rw [← spelled, List.getLast?_append_of_ne_nil _ written, List.getLast?_eq_some_getLast written]
        at ended
      have last := List.dropWhile_eq_nil_iff.mp blank _ (List.getLast_mem written)
      rw [ended _ rfl] at last
      cases last
    have started : Text.trimStart (part ++ back) = Text.trimStart part ++ back := by
      unfold Text.trimStart at left ⊢
      rw [List.dropWhile_append, if_neg (by simpa using left)]
    by_contra read
    have begins := isPrefix_of_stereotype? read
    rw [started, shape] at begins
    have within := Text.isPrefix_of_not_mem (by decide) begins
    have dropped : Text.trimStart part <:+ part := List.dropWhile_suffix _
    exact bare.unmarked (within.isInfix.trans (dropped.trans inside).isInfix)
  have found : Text.seek (fun rest => stereotype? (Text.trimStart rest)) back =
      some ([], label.toList) := by
    apply Text.seek_of_found
    rw [shape]
    exact stereotype?_label labelled
  unfold stereotyped?
  rw [List.append_assoc, ← shape, Text.seek_append_of_suffix fails, found]
  simp [bare.unbroken]

theorem ofStereotyped_label (bare : BareName name) (labelled : StereotypeLabel label) :
    ofStereotyped (name.toList ++ ' ' :: '<' :: '<' :: label.toList ++ ['>', '>']) =
      .stereotyped name label := by
  unfold ofStereotyped
  rw [stereotyped?_label bare labelled]
  dsimp only
  rw [unquote_eq_trim bare.unquoted, bare.trim_eq]
  split
  · rename_i empty
    exact absurd empty bare.ne_nil
  · rw [labelled.trim_eq, String.ofList_toList, String.ofList_toList]

theorem ofStereotyped_eq (unmarked : ¬ ['<', '<'] <:+: text) : ofStereotyped text = ofSimple text := by
  unfold ofStereotyped
  rw [stereotyped?_eq_none unmarked]

theorem ofSimple_bare (bare : BareName name) : ofSimple name.toList = .simple name none := by
  have uncut : Text.cut? [':'] name.toList = none := Text.cut?_eq_none bare.uncut []
  unfold ofSimple
  rw [uncut]
  dsimp only
  rw [unquote_eq_trim bare.unquoted, bare.trim_eq, if_neg bare.ne_nil, String.ofList_toList]

theorem ofSimple_content (bare : BareName name) :
    ofSimple (name.toList ++ ' ' :: ':' :: text) =
      .simple name (some (String.ofList (Text.trim text))) := by
  have cut : Text.cut? [':'] (name.toList ++ ' ' :: ':' :: text) = some (name.toList ++ [' '], text) :=
    Text.cut?_eq_some_iff.mpr ⟨by simpa using bare.uncut, by simp⟩
  have named : Name.unquote (name.toList ++ [' ']) = name.toList := by
    rw [unquote_eq_trim (by simpa using bare.unquoted), Text.trim_concat_blank _ Text.isBlank_space,
      bare.trim_eq]
  unfold ofSimple
  rw [cut]
  dsimp only
  rw [named, if_neg bare.ne_nil, String.ofList_toList]

theorem ofDeclaration_flat (written : body ≠ []) (unopened : '{' ∉ body) :
    ofDeclaration body = ofFlat body := by
  unfold ofDeclaration
  rw [if_neg written, Text.cut?_eq_none unopened]

theorem ofDeclaration_open (unopened : '{' ∉ text) (trimmed : Text.trim text = text) :
    ofDeclaration (text ++ [' '] ++ ['{']) = ofHead text := by
  have cut : Text.cut? ['{'] (text ++ [' '] ++ ['{']) = some (text ++ [' '], []) :=
    Text.cut?_eq_some_iff.mpr ⟨by simpa using unopened, rfl⟩
  unfold ofDeclaration
  rw [if_neg (by simp), cut]
  dsimp only
  rw [Text.trim_concat_blank _ Text.isBlank_space, trimmed]

end Line

end Statechart
