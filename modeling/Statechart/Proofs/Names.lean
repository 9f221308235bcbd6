import Mathlib.Data.List.DropRight
import Statechart.Name
import Statechart.Proofs.Marks

/-! Names are read once and for all. Blanks around a name do not count, and neither do they after it
was read: a plain name and the marker of a history are names of the same family when they are read
again, so the family of a name can be told from what was made of it. -/
namespace Statechart

namespace Text

theorem isBlank_space : isBlank ' ' = true := by
  decide

theorem trimEnd_eq_rdropWhile (text : List Char) : trimEnd text = text.rdropWhile isBlank := rfl

theorem trimStart_eq_self_of_isPrefix {shorter text : List Char} (begins : shorter <+: text)
    (bare : trimStart text = text) : trimStart shorter = shorter := by
  unfold trimStart at bare ⊢
  rw [List.dropWhile_eq_self_iff] at bare ⊢
  intro written
  obtain ⟨rest, rfl⟩ := begins
  have first := bare (by simp only [List.length_append]; omega)
  rwa [List.getElem_append_left written] at first

theorem trimStart_trim (text : List Char) : trimStart (trim text) = trim text := by
  have started : trimStart (trimStart text) = trimStart text := List.dropWhile_idempotent _ _
  have shortened : trimEnd (trimStart text) <+: trimStart text := List.rdropWhile_prefix _ _
  exact trimStart_eq_self_of_isPrefix shortened started

/-- Trimming leaves nothing to trim. -/
theorem trim_trim (text : List Char) : trim (trim text) = trim text := by
  show trimEnd (trimStart (trim text)) = trim text
  rw [trimStart_trim]
  exact List.rdropWhile_idempotent _ _

theorem trimStart_eq_self_iff {text : List Char} :
    trimStart text = text ↔ ∀ c ∈ text.head?, isBlank c = false := by
  unfold trimStart
  rw [List.dropWhile_eq_self_iff]
  cases text <;> simp

theorem trimEnd_eq_self_iff {text : List Char} :
    trimEnd text = text ↔ ∀ c ∈ text.getLast?, isBlank c = false := by
  rw [trimEnd_eq_rdropWhile, List.rdropWhile_eq_self_iff]
  constructor
  · intro ends c last
    obtain ⟨written, rfl⟩ := List.mem_getLast?_eq_getLast last
    simpa using ends written
  · intro ends written
    simp [ends _ (List.getLast?_eq_some_getLast written)]

/-- A text keeps what is at its ends exactly if there is no blank at either end. -/
theorem trim_eq_self_iff {text : List Char} :
    trim text = text ↔
      (∀ c ∈ text.head?, isBlank c = false) ∧ ∀ c ∈ text.getLast?, isBlank c = false := by
  rw [← trimStart_eq_self_iff, ← trimEnd_eq_self_iff]
  constructor
  · intro kept
    have start := trimStart_trim text
    rw [kept] at start
    refine ⟨start, ?_⟩
    rwa [trim, start] at kept
  · rintro ⟨start, ended⟩
    rw [trim, start, ended]

/-- A text without blanks has none to be trimmed. -/
theorem trim_eq_self {text : List Char} (free : ∀ c ∈ text, isBlank c = false) : trim text = text :=
  trim_eq_self_iff.mpr
    ⟨fun c first => free c (List.mem_of_head? first), fun c last => free c (List.mem_of_getLast? last)⟩

/-- Nothing between two texts that are kept is at an end, so it is kept as well. -/
theorem trim_between {first last : List Char} (middle : List Char) (start : trim first = first)
    (ended : trim last = last) (written : first ≠ []) (writtenLast : last ≠ []) :
    trim (first ++ middle ++ last) = first ++ middle ++ last := by
  rw [trim_eq_self_iff] at start ended ⊢
  rw [List.getLast?_append_of_ne_nil _ writtenLast, List.append_assoc,
    List.head?_append_of_ne_nil _ written]
  exact ⟨start.1, ended.2⟩

/-- What is left of a text after trimming stands in it. -/
theorem trim_isInfix (text : List Char) : trim text <:+: text := by
  have shortened : trim text <+: trimStart text := List.rdropWhile_prefix _ _
  have started : trimStart text <:+ text := List.dropWhile_suffix _
  exact shortened.isInfix.trans started.isInfix

theorem trim_cons_blank {c : Char} (blank : isBlank c = true) (text : List Char) :
    trim (c :: text) = trim text := by
  simp [trim, trimStart, blank]

theorem trim_blanks_append {blanks : List Char} (blank : ∀ c ∈ blanks, isBlank c = true)
    (text : List Char) : trim (blanks ++ text) = trim text := by
  induction blanks with
  | nil => rfl
  | cons c blanks ih =>
    obtain ⟨here, later⟩ := List.forall_mem_cons.mp blank
    rw [List.cons_append, trim_cons_blank here, ih later]

end Text

namespace Name

variable {raw owner inside : List Char} {written name marker : String} {holder : Option String}

theorem ofChars_trim (raw : List Char) : ofChars (Text.trim raw) = ofChars raw := by
  unfold ofChars
  rw [Text.trim_trim]

/-- Blanks around a name do not count. -/
theorem ofString_trim (raw : String) :
    ofString (String.ofList (Text.trim raw.toList)) = ofString raw := by
  unfold ofString
  rw [String.toList_ofList, ofChars_trim]

theorem ofString_initialMark : ofString initialMark = .initial := by
  decide

/-- A text is taken apart at its first bracket and the first closing one after it, if there is an `H`
between them. -/
theorem splitHistory_eq_some_iff {marker : List Char} :
    splitHistory raw = some (owner, marker) ↔
      ∃ before inside after, raw = before ++ '[' :: (inside ++ ']' :: after) ∧ '[' ∉ before ∧
        ']' ∉ inside ∧ 'H' ∈ inside ∧ owner = Text.trim before ∧ marker = '[' :: inside ++ [']'] := by
  constructor
  · intro split
    unfold splitHistory at split
    split at split
    · cases split
    · rename_i before rest opened
      split at split
      · cases split
      · rename_i inside after closed
        split at split
        · rename_i remembers
          cases split
          obtain ⟨unbracketed, shape⟩ := Text.cut?_eq_some_iff.mp opened
          obtain ⟨unclosed, rfl⟩ := Text.cut?_eq_some_iff.mp closed
          exact ⟨before, inside, after, shape, unbracketed, unclosed, remembers, rfl, rfl⟩
        · cases split
  · rintro ⟨before, inside, after, rfl, unbracketed, unclosed, remembers, rfl, rfl⟩
    have opened : Text.cut? ['['] (before ++ '[' :: (inside ++ ']' :: after)) =
        some (before, inside ++ ']' :: after) := Text.cut?_eq_some_iff.mpr ⟨unbracketed, rfl⟩
    have closed : Text.cut? [']'] (inside ++ ']' :: after) = some (inside, after) :=
      Text.cut?_eq_some_iff.mpr ⟨unclosed, rfl⟩
    simp only [splitHistory, opened, closed, if_pos remembers]

/-- The mark of a start has no `H` between its brackets. -/
theorem splitHistory_initialMark : splitHistory initialMark.toList = none := by
  decide

theorem ofString_eq_initial_iff :
    ofString written = .initial ↔ Text.trim written.toList = initialMark.toList := by
  unfold ofString ofChars
  dsimp only
  split
  · rename_i mark
    exact iff_of_true rfl mark
  · rename_i other
    refine iff_of_false ?_ other
    split <;> simp

/-- A name that can be taken apart is that of a history, and what precedes the brackets is the owner
unless it is empty. -/
theorem ofString_eq_history_iff :
    ofString written = .history holder marker ↔
      ∃ owner brackets, splitHistory (Text.trim written.toList) = some (owner, brackets) ∧
        holder = (if owner = [] then none else some (String.ofList owner)) ∧
        marker = String.ofList brackets := by
  unfold ofString ofChars
  dsimp only
  split
  · rename_i mark
    have whole : splitHistory (Text.trim written.toList) = none := mark ▸ splitHistory_initialMark
    simp [whole]
  · split
    · rename_i split
      simp [split, eq_comm]
    · rename_i owner brackets owned split
      have present : owner ≠ [] := owned
      simp [split, present, eq_comm]
    · rename_i split
      simp [split]

/-- Any other name is a plain one, without the blanks around it. -/
theorem ofString_eq_plain_iff :
    ofString written = .plain name ↔
      name = String.ofList (Text.trim written.toList) ∧ name ≠ initialMark ∧
        splitHistory name.toList = none := by
  unfold ofString ofChars
  dsimp only
  split
  · rename_i mark
    have same : String.ofList (Text.trim written.toList) = initialMark := by
      rw [mark]
      rfl
    simp +contextual [same]
  · rename_i other
    have different : String.ofList (Text.trim written.toList) ≠ initialMark := by
      intro same
      exact other (by rw [← String.toList_ofList (l := Text.trim written.toList), same]; rfl)
    split
    · rename_i split
      simp +contextual [split]
    · rename_i split
      simp +contextual [split]
    · rename_i split
      simp +contextual [split, different, eq_comm]

/-- A plain name is what was written without the blanks around it. -/
theorem eq_trim_of_plain (read : ofString written = .plain name) :
    name = String.ofList (Text.trim written.toList) :=
  (ofString_eq_plain_iff.mp read).1

/-- A plain name is plain when it is read again. -/
theorem ofString_plain (read : ofString written = .plain name) : ofString name = .plain name := by
  conv => lhs; rw [eq_trim_of_plain read, ofString_trim]
  exact read

/-- A name without a bracket is a plain one. -/
theorem ofString_unbracketed (free : '[' ∉ written.toList) :
    ofString written = .plain (String.ofList (Text.trim written.toList)) := by
  have free : '[' ∉ Text.trim written.toList := fun member => free ((Text.trim_isInfix _).subset member)
  refine ofString_eq_plain_iff.mpr ⟨rfl, ?_, ?_⟩
  · intro same
    rw [← String.toList_ofList (l := Text.trim written.toList), same] at free
    exact free (by decide)
  · rw [String.toList_ofList, splitHistory, Text.cut?_eq_none free]

/-- The owner of a history is what precedes the first bracket, so it is a plain name. -/
theorem unbracketed_of_history {owner : String} (read : ofString written = .history (some owner) marker) :
    '[' ∉ owner.toList := by
  obtain ⟨front, brackets, split, held, -⟩ := ofString_eq_history_iff.mp read
  obtain ⟨before, -, -, -, unbracketed, -, -, rfl, -⟩ := splitHistory_eq_some_iff.mp split
  split at held
  · cases held
  · cases held
    rw [String.toList_ofList]
    exact fun member => unbracketed ((Text.trim_isInfix _).subset member)

/-- The marker of a history is a pair of brackets with an `H` between them. -/
theorem exists_brackets_of_history (read : ofString written = .history holder marker) :
    ∃ inside, marker = String.ofList ('[' :: inside ++ [']']) ∧ ']' ∉ inside ∧ 'H' ∈ inside := by
  obtain ⟨_, _, split, -, rfl⟩ := ofString_eq_history_iff.mp read
  obtain ⟨_, inside, _, -, -, closed, remembers, -, rfl⟩ := splitHistory_eq_some_iff.mp split
  exact ⟨inside, rfl, closed, remembers⟩

/-- The first such pair of brackets in a text is the marker of a history, and what precedes it is the owner. -/
theorem splitHistory_brackets (unbracketed : '[' ∉ owner) (closed : ']' ∉ inside)
    (remembers : 'H' ∈ inside) :
    splitHistory (owner ++ '[' :: inside ++ [']']) =
      some (Text.trim owner, '[' :: inside ++ [']']) :=
  splitHistory_eq_some_iff.mpr ⟨owner, inside, [], by simp, unbracketed, closed, remembers, rfl, rfl⟩

/-- A pair of brackets ends in no blank, and it starts with none if it has no owner. -/
theorem trim_brackets (trimmed : Text.trim owner = owner) (inside : List Char) :
    Text.trim (owner ++ '[' :: inside ++ [']']) = owner ++ '[' :: inside ++ [']'] := by
  by_cases alone : owner = []
  · subst alone
    exact Text.trim_between inside (by decide : Text.trim ['['] = ['[']) (by decide) (by decide) (by decide)
  · exact Text.trim_between _ trimmed (by decide) alone (by decide)

/-- Such a pair of brackets is a history, without an owner if it stands alone. -/
theorem ofString_brackets (trimmed : Text.trim owner = owner) (unbracketed : '[' ∉ owner)
    (closed : ']' ∉ inside) (remembers : 'H' ∈ inside) :
    ofString (String.ofList (owner ++ '[' :: inside ++ [']'])) =
      .history (if owner = [] then none else some (String.ofList owner))
        (String.ofList ('[' :: inside ++ [']'])) := by
  refine ofString_eq_history_iff.mpr ⟨owner, _, ?_, rfl, rfl⟩
  rw [String.toList_ofList, trim_brackets trimmed, splitHistory_brackets unbracketed closed remembers,
    trimmed]

/-- The marker of a history, read again, is a history without an owner. -/
theorem ofString_marker (read : ofString written = .history holder marker) :
    ofString marker = .history none marker := by
  obtain ⟨inside, rfl, closed, remembers⟩ := exists_brackets_of_history read
  exact @ofString_brackets [] inside rfl List.not_mem_nil closed remembers

end Name

end Statechart
