import Statechart.Proofs.Classification

/-! Quoted names without a nickname. Where no nickname follows the closing quotation mark, the text is tried
once more as a word and its nickname, and there the quotation marks protect nothing: if the second word of
the name is `as`, the first word and the third one are taken for a name and its nickname, the marks
included. All other names are kept as they stand between the marks. -/
namespace Statechart

/-- A name that ends nothing but itself when it stands in quotation marks. -/
structure QuotedName (name : String) : Prop extends Written name where
  unquoted : '"' ∉ name.toList
  unopened : '{' ∉ name.toList
  uncut : ':' ∉ name.toList
  unmarked : '<' ∉ name.toList

theorem QuotedName.unmarked_closing {name : String} (quoted : QuotedName name) :
    ¬ ['<', '<'] <:+: '"' :: name.toList ++ ['"'] := by
  intro inside
  have member : '<' ∈ '"' :: name.toList ++ ['"'] := inside.subset List.mem_cons_self
  exact quoted.unmarked (by simpa using member)

/-- The second word of a text is `as`. It stands between the first word and the rest of the text. -/
structure SecondIsAs (text word rest : List Char) : Prop where
  solid : ∀ c ∈ word, Text.isBlank c = false
  started : Text.trimStart rest = rest
  shape : ∃ opening closing, Text.Blanks opening ∧ opening ≠ [] ∧ Text.Blanks closing ∧ closing ≠ [] ∧
    text = word ++ opening ++ ['a', 's'] ++ closing ++ rest

/-- The nickname that is read off what follows the word `as`, when the closing quotation mark stands at its
end. -/
def misreadNickname (rest : List Char) : List Char :=
  (rest ++ ['"']).takeWhile fun c => !Line.endsNickname c

theorem misreadNickname_ne_nil {rest : List Char} (started : Text.trimStart rest = rest)
    (solid : ∀ c ∈ rest, c ≠ '<' ∧ c ≠ '{' ∧ c ≠ ':') : misreadNickname rest ≠ [] := by
  cases rest with
  | nil => decide
  | cons c rest =>
    have bare : Text.isBlank c = false := Text.trimStart_eq_self_iff.mp started c rfl
    have goesOn : Line.endsNickname c = false := by
      simp [Line.endsNickname, bare, solid c List.mem_cons_self]
    simp [misreadNickname, goesOn]

namespace Line

variable {name : String} {text word rest tail short : List Char} {stereotype : Option (List Char)}

theorem trimStart_closing (text : List Char) :
    Text.trimStart (text ++ ['"']) = Text.trimStart text ++ ['"'] := by
  unfold Text.trimStart
  rw [List.dropWhile_append]
  split
  · rename_i hollow
    rw [List.isEmpty_iff.mp hollow]
    rfl
  · rfl

/-- No stereotype is read where its mark does not occur. -/
theorem stereotype?_closing (unmarked : '<' ∉ text) (p : Char → Bool) :
    stereotype? (Text.trimStart ((text ++ ['"']).dropWhile p)) = none := by
  by_contra read
  have marked := (isPrefix_of_stereotype? read).subset List.mem_cons_self
  have dropped : Text.trimStart ((text ++ ['"']).dropWhile p) <:+ text ++ ['"'] :=
    (List.dropWhile_suffix _).trans (List.dropWhile_suffix _)
  exact unmarked (by simpa using dropped.subset marked)

/-- A nickname is read off a text that ends in a quotation mark exactly if the first word before it is `as`,
with blanks on both sides. -/
theorem nickname?_closing_iff (free : ∀ c ∈ tail, c ≠ '<' ∧ c ≠ '{' ∧ c ≠ ':') :
    nickname? (tail ++ ['"']) = some (short, stereotype) ↔
      ∃ opening closing rest, Text.Blanks opening ∧ opening ≠ [] ∧ Text.Blanks closing ∧ closing ≠ [] ∧
        tail = opening ++ ['a', 's'] ++ closing ++ rest ∧ Text.trimStart rest = rest ∧
        short = misreadNickname rest ∧ stereotype = none := by
  rw [nickname?_eq_some_iff]
  constructor
  · rintro ⟨before, first, last, later, blanks, opens, closes, shape, rfl, -, rfl⟩
    rcases List.eq_nil_or_concat later with rfl | ⟨inner, c, rfl⟩
    · -- A blank follows the word, but the text ends in a quotation mark.
      have ended : tail ++ ['"'] = (before ++ [first, 'a', 's']) ++ [last] := by
        simpa using shape
      obtain ⟨-, same⟩ := List.append_inj' ended rfl
      obtain rfl := List.singleton_inj.mp same
      exact absurd closes (by decide)
    · have ended : tail ++ ['"'] = (before ++ [first, 'a', 's', last] ++ inner) ++ [c] := by
        simpa using shape
      obtain ⟨rfl, same⟩ := List.append_inj' ended rfl
      obtain rfl := List.singleton_inj.mp same
      have opening : Text.Blanks (before ++ [first]) :=
        List.forall_mem_append.mpr ⟨blanks, List.forall_mem_singleton.mpr opens⟩
      have between : Text.Blanks (last :: inner.takeWhile Text.isBlank) :=
        List.forall_mem_cons.mpr ⟨closes, fun d => List.mem_takeWhile_imp⟩
      have joined : inner.takeWhile Text.isBlank ++ Text.trimStart inner = inner :=
        List.takeWhile_append_dropWhile
      rw [List.concat_eq_append, trimStart_closing]
      refine ⟨_, _, Text.trimStart inner, opening, by simp, between, by simp, ?_,
        List.dropWhile_idempotent _ _, rfl, ?_⟩
      · conv => lhs; rw [← joined]
        simp
      · have dropped : Text.trimStart inner <:+ inner := List.dropWhile_suffix _
        refine stereotype?_closing (fun member => ?_) _
        exact (free '<' (List.mem_append_right _ (dropped.subset member))).1 rfl
  · rintro ⟨opening, closing, rest, blanks, opened, between, closed, rfl, started, rfl, rfl⟩
    obtain ⟨before, first, rfl⟩ := (List.eq_nil_or_concat opening).resolve_left opened
    obtain ⟨last, others, rfl⟩ := List.exists_cons_of_ne_nil closed
    rw [List.concat_eq_append] at blanks
    obtain ⟨blanksBefore, opens⟩ := List.forall_mem_append.mp blanks
    obtain ⟨closes, blanksAfter⟩ := List.forall_mem_cons.mp between
    have reached : Text.trimStart (others ++ rest ++ ['"']) = rest ++ ['"'] := by
      rw [trimStart_closing, Text.trimStart, List.dropWhile_append_of_pos blanksAfter]
      exact congrArg (· ++ ['"']) started
    refine ⟨before, first, last, others ++ rest ++ ['"'], blanksBefore, opens first (by simp), closes,
      by simp, ?_, ?_, ?_⟩
    · rw [reached]
      rfl
    · exact misreadNickname_ne_nil started fun c member => free c (by simp [member])
    · rw [reached]
      refine (stereotype?_closing (fun member => ?_) _).symm
      exact (free '<' (List.mem_append_right _ member)).1 rfl

/-- A quoted name at the end of a declaration is tried as a word and its nickname. -/
theorem aliased?_closing (unquoted : '"' ∉ text) :
    aliased? ('"' :: text ++ ['"']) =
      (nickname? (Text.word (text ++ ['"'])).2).map
        fun parts => ('"' :: (Text.word (text ++ ['"'])).1, parts) := by
  have split : quoted? ('"' :: text ++ ['"']) = some (text, []) :=
    Text.cut?_eq_some_iff.mpr ⟨unquoted, rfl⟩
  have solid : Text.isBlank '"' = false := by decide
  have word : Text.word ('"' :: text ++ ['"']) =
      ('"' :: (Text.word (text ++ ['"'])).1, (Text.word (text ++ ['"'])).2) := by
    simp [Text.word, List.span_eq_takeWhile_dropWhile, solid]
  unfold aliased?
  rw [split, word]
  rfl

/-- A quoted name is taken for a word and its nickname exactly if its second word is `as`. -/
theorem aliased?_quotedName_iff (quoted : QuotedName name) {written : List Char} :
    aliased? ('"' :: name.toList ++ ['"']) = some (written, short, stereotype) ↔
      ∃ word rest, SecondIsAs name.toList word rest ∧ written = '"' :: word ∧
        short = misreadNickname rest ∧ stereotype = none := by
  have allowed : ∀ c ∈ name.toList, c ≠ '<' ∧ c ≠ '{' ∧ c ≠ ':' := by
    intro c member
    refine ⟨?_, ?_, ?_⟩ <;> rintro rfl
    · exact quoted.unmarked member
    · exact quoted.unopened member
    · exact quoted.uncut member
  rw [aliased?_closing quoted.unquoted]
  constructor
  · intro read
    obtain ⟨⟨word, after⟩, split⟩ : ∃ parts, Text.word (name.toList ++ ['"']) = parts := ⟨_, rfl⟩
    obtain ⟨joined, solid⟩ := word_eq split
    rw [split] at read
    obtain ⟨_, named, same⟩ := Option.map_eq_some_iff.mp read
    cases same
    rcases List.eq_nil_or_concat after with rfl | ⟨tail, c, rfl⟩
    · cases named
    · have ended : name.toList ++ ['"'] = (word ++ tail) ++ [c] := by
        simpa using joined
      obtain ⟨spelled, same⟩ := List.append_inj' ended rfl
      obtain rfl := List.singleton_inj.mp same
      rw [spelled] at allowed
      rw [List.concat_eq_append] at named
      obtain ⟨opening, closing, rest, blanks, opened, between, closed, rfl, started, rfl, rfl⟩ :=
        (nickname?_closing_iff fun c member => allowed c (List.mem_append_right _ member)).mp named
      refine ⟨word, rest, ⟨solid, started, opening, closing, blanks, opened, between, closed, ?_⟩, rfl, rfl,
        rfl⟩
      simp [spelled]
  · rintro ⟨word, rest, second, rfl, rfl, rfl⟩
    obtain ⟨solid, started, opening, closing, blanks, opened, between, closed, spelled⟩ := second
    obtain ⟨tail, tailShape⟩ : ∃ tail, tail = opening ++ ['a', 's'] ++ closing ++ rest := ⟨_, rfl⟩
    have joined : name.toList = word ++ tail := by simp [spelled, tailShape]
    have split : Text.word (name.toList ++ ['"']) = (word, tail ++ ['"']) := by
      have inside : ∀ c ∈ word, (!Text.isBlank c) = true := by simpa using solid
      have boundary : ∀ c ∈ (tail ++ ['"']).head?, (!Text.isBlank c) = false := by
        obtain ⟨first, others, rfl⟩ := List.exists_cons_of_ne_nil opened
        simp [tailShape, blanks first List.mem_cons_self]
      rw [joined, List.append_assoc]
      exact Text.span_append inside boundary
    rw [joined] at allowed
    rw [split, (nickname?_closing_iff fun c member => allowed c (List.mem_append_right _ member)).mpr
      ⟨opening, closing, rest, blanks, opened, between, closed, tailShape, started, rfl, rfl⟩]
    rfl

theorem trim_closing (text : List Char) : Text.trim ('"' :: text ++ ['"']) = '"' :: text ++ ['"'] := by
  show Text.trim (['"'] ++ text ++ ['"']) = ['"'] ++ text ++ ['"']
  exact Text.trim_between text (by decide) (by decide) (by decide) (by decide)

theorem unquote_closing (text : List Char) : Name.unquote ('"' :: text ++ ['"']) = text := by
  unfold Name.unquote
  rw [trim_closing]
  simp

theorem classify_closing (unopened : '{' ∉ name.toList) :
    classify ("state \"" ++ name ++ "\"") = ofFlat ('"' :: name.toList ++ ['"']) := by
  rw [classify_declaration (by simp) (trim_closing name.toList) (by simp),
    ofDeclaration_flat (by simp) (by simp [unopened])]

theorem classify_closingOpen (unopened : '{' ∉ name.toList) :
    classify ("state \"" ++ name ++ "\" \x7b") = ofHead ('"' :: name.toList ++ ['"']) := by
  have trimmed : Text.trim ('"' :: name.toList ++ ['"'] ++ [' '] ++ ['{']) =
      '"' :: name.toList ++ ['"'] ++ [' '] ++ ['{'] :=
    Text.trim_between [' '] (trim_closing name.toList) (by decide) (by simp) (by decide)
  rw [classify_declaration (by simp) trimmed (by simp),
    ofDeclaration_open (by simp [unopened]) (trim_closing name.toList)]

theorem ofStereotyped_quotedName (quoted : QuotedName name) :
    ofStereotyped ('"' :: name.toList ++ ['"']) = .simple name none := by
  have uncut : Text.cut? [':'] ('"' :: name.toList ++ ['"']) = none :=
    Text.cut?_eq_none (by simp [quoted.uncut]) []
  rw [ofStereotyped_eq quoted.unmarked_closing, ofSimple, uncut]
  dsimp only
  rw [unquote_closing, if_neg quoted.ne_nil, String.ofList_toList]

/-- The quotation marks protect a name whose second word is not `as`. -/
theorem aliased?_quotedName_eq_none (quoted : QuotedName name)
    (other : ∀ word rest, ¬ SecondIsAs name.toList word rest) :
    aliased? ('"' :: name.toList ++ ['"']) = none := by
  rw [Option.eq_none_iff_forall_ne_some]
  rintro ⟨written, short, stereotype⟩ read
  obtain ⟨word, rest, second, -⟩ := (aliased?_quotedName_iff quoted).mp read
  exact other word rest second

theorem aliased?_secondIsAs (quoted : QuotedName name) (second : SecondIsAs name.toList word rest) :
    aliased? ('"' :: name.toList ++ ['"']) = some ('"' :: word, misreadNickname rest, none) :=
  (aliased?_quotedName_iff quoted).mpr ⟨word, rest, second, rfl, rfl, rfl⟩

theorem occurs_closing_iff {mark : List Char} (free : '"' ∉ mark) :
    Text.occurs mark ('"' :: text ++ ['"']) = true ↔ mark <:+: text := by
  rw [Text.occurs, ← Option.ne_none_iff_isSome, ne_eq, Text.cut?_eq_none_iff, not_not]
  constructor
  · intro inside
    have parted : mark <:+: '"' :: text ∨ mark <:+: [] := Text.isInfix_of_not_mem free inside
    rcases parted with before | after
    · exact Text.isInfix_of_isInfix_cons free before
    · exact after.trans List.nil_infix
  · intro inside
    exact inside.trans ⟨['"'], ['"'], rfl⟩

/-- A quoted name is declared as it stands in its quotation marks exactly if its second word is not `as`, or,
where no brace follows it, if the word `as` does not stand between two spaces in it. Otherwise the first word
is declared, with the opening quotation mark and with the third word for its nickname. -/
theorem classify_quotedName (quoted : QuotedName name) :
    (classify ("state \"" ++ name ++ "\"") = .simple name none ↔
      (∀ word rest, ¬ SecondIsAs name.toList word rest) ∨ ¬ " as ".toList <:+: name.toList) ∧
    (classify ("state \"" ++ name ++ "\" \x7b") = .composite name none ↔
      ∀ word rest, ¬ SecondIsAs name.toList word rest) ∧
    ∀ word rest, SecondIsAs name.toList word rest →
      (" as ".toList <:+: name.toList → classify ("state \"" ++ name ++ "\"") =
        .aliased (String.ofList ('"' :: word)) (String.ofList (misreadNickname rest)) none) ∧
      classify ("state \"" ++ name ++ "\" \x7b") =
        .composite (String.ofList ('"' :: word)) (some (String.ofList (misreadNickname rest))) := by
  have misread {word rest : List Char} (second : SecondIsAs name.toList word rest) :
      (" as ".toList <:+: name.toList → ofFlat ('"' :: name.toList ++ ['"']) =
        .aliased (String.ofList ('"' :: word)) (String.ofList (misreadNickname rest)) none) ∧
      ofHead ('"' :: name.toList ++ ['"']) =
        .composite (String.ofList ('"' :: word)) (some (String.ofList (misreadNickname rest))) := by
    have read := aliased?_secondIsAs quoted second
    constructor
    · intro connected
      rw [ofFlat, if_pos ((occurs_closing_iff (by decide)).mpr connected), read]
      rfl
    · rw [ofHead_eq quoted.unmarked_closing (by simp), read]
  rw [classify_closing quoted.unopened, classify_closingOpen quoted.unopened]
  refine ⟨⟨?_, ?_⟩, ⟨?_, ?_⟩, fun word rest => misread⟩
  · intro kept
    by_contra neither
    obtain ⟨some, connected⟩ := not_or.mp neither
    obtain ⟨word, rest, second⟩ : ∃ word rest, SecondIsAs name.toList word rest := by simpa using some
    rw [(misread second).1 (not_not.mp connected)] at kept
    cases kept
  · rintro (other | apart)
    · rw [ofFlat_eq (aliased?_quotedName_eq_none quoted other), ofStereotyped_quotedName quoted]
    · rw [ofFlat, if_neg (mt (occurs_closing_iff (by decide)).mp apart), ofStereotyped_quotedName quoted]
  · intro kept word rest second
    rw [(misread second).2] at kept
    cases kept
  · intro other
    rw [ofHead_eq quoted.unmarked_closing (by simp), aliased?_quotedName_eq_none quoted other]
    dsimp only
    rw [unquote_closing, String.ofList_toList]

/-- A name whose second word is `as` is taken apart, with a brace or without one. Further back in a name the
word is kept. -/
theorem classify_quotedName_second :
    classify "state \"Save as draft\"" = .aliased "\"Save" "draft\"" none ∧
      classify "state \"Save as draft\" \x7b" = .composite "\"Save" (some "draft\"") ∧
      ∀ word rest, ¬ SecondIsAs "Save it as draft".toList word rest := by
  have quoted : QuotedName "Save as draft" :=
    ⟨⟨by decide, by decide⟩, by decide, by decide, by decide, by decide⟩
  have longer : QuotedName "Save it as draft" :=
    ⟨⟨by decide, by decide⟩, by decide, by decide, by decide, by decide⟩
  have second : SecondIsAs "Save as draft".toList "Save".toList "draft".toList :=
    ⟨by simp [Text.isBlank], by decide, [' '], [' '], by simp [Text.Blanks, Text.isBlank_space], by simp,
      by simp [Text.Blanks, Text.isBlank_space], by simp, by decide⟩
  obtain ⟨flat, opened⟩ := (classify_quotedName quoted).2.2 _ _ second
  exact ⟨flat (by decide), opened, (classify_quotedName longer).2.1.mp (by decide)⟩

/-- So the quotation marks do not protect every name. -/
theorem quotedName_not_kept :
    QuotedName "Save as draft" ∧
      classify "state \"Save as draft\"" ≠ .simple "Save as draft" none ∧
      classify "state \"Save as draft\" \x7b" ≠ .composite "Save as draft" none :=
  ⟨⟨⟨by decide, by decide⟩, by decide, by decide, by decide, by decide⟩, by decide, by decide⟩

end Line

end Statechart
