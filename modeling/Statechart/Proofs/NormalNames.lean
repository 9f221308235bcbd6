import Statechart.Proofs.Declarations

/-! Names in normal form. What is made of a written name tells how to write it without anything that does not
count: no blanks around it, none before the brackets of a history, and nothing after them. Written so, it is read
as the same name. And whatever satisfies the conditions on the parts of a name is read as these parts. -/
namespace Statechart.Name

/-- How a name is written. The brackets of a history follow the name of its owner. -/
def text : Name → String
  | initial => initialMark
  | history none marker => marker
  | history (some owner) marker => owner ++ marker
  | plain name => name

/-- A pair of brackets with an `H` between them. The closing one is the only one of its kind, the opening one
need not be. -/
def IsMarker (marker : String) : Prop :=
  ∃ inside : String, marker = "[" ++ inside ++ "]" ∧ ']' ∉ inside.toList ∧ 'H' ∈ inside.toList

/-- The names that are read, by conditions on their parts. -/
inductive Normal : Name → Prop where
  | initial : Normal initial
  /-- An owner is a name of its own without a bracket. -/
  | history {owner : Option String} {marker : String} (bracketed : IsMarker marker)
      (owned : ∀ name ∈ owner, Written name ∧ '[' ∉ name.toList) : Normal (history owner marker)
  /-- Any text without blanks at its ends that is neither of the others. -/
  | plain {name : String} (trimmed : Text.trim name.toList = name.toList) (other : name ≠ initialMark)
      (whole : splitHistory name.toList = none) : Normal (plain name)

variable {n : Name} {marker : String}

theorem IsMarker.exists_toList (bracketed : IsMarker marker) :
    ∃ inside, marker.toList = '[' :: inside ++ [']'] ∧ ']' ∉ inside ∧ 'H' ∈ inside := by
  obtain ⟨inside, rfl, closed, remembers⟩ := bracketed
  exact ⟨inside.toList, by simp, closed, remembers⟩

theorem isMarker_of_brackets {inside : List Char} (closed : ']' ∉ inside) (remembers : 'H' ∈ inside) :
    IsMarker (String.ofList ('[' :: inside ++ [']'])) := by
  refine ⟨String.ofList inside, ?_, by simpa using closed, by simpa using remembers⟩
  rw [← String.toList_inj]
  simp

/-- Whatever is written, a normal name is made of it. -/
theorem ofString_normal (written : String) : (ofString written).Normal := by
  cases read : ofString written with
  | initial => exact .initial
  | history owner marker =>
    obtain ⟨front, brackets, split, rfl, rfl⟩ := ofString_eq_history_iff.mp read
    obtain ⟨before, inside, after, -, unbracketed, closed, remembers, rfl, rfl⟩ :=
      splitHistory_eq_some_iff.mp split
    refine .history (isMarker_of_brackets closed remembers) ?_
    intro name owned
    split at owned
    · cases owned
    · rename_i present
      cases owned
      refine ⟨⟨by simpa using present, ?_⟩, ?_⟩
      · rw [String.toList_ofList, Text.trim_trim]
      · rw [String.toList_ofList]
        exact fun member => unbracketed ((Text.trim_isInfix before).subset member)
  | plain name =>
    obtain ⟨rfl, other, whole⟩ := ofString_eq_plain_iff.mp read
    refine .plain ?_ other whole
    rw [String.toList_ofList, Text.trim_trim]

/-- A normal name that is written is read as itself. -/
theorem Normal.ofString_text (normal : n.Normal) : ofString n.text = n := by
  cases normal with
  | initial => exact ofString_initialMark
  | @history owner marker bracketed owned =>
    obtain ⟨inside, shape, closed, remembers⟩ := bracketed.exists_toList
    cases owner with
    | none =>
      have read := @ofString_brackets [] inside rfl List.not_mem_nil closed remembers
      rwa [List.nil_append, ← shape, String.ofList_toList] at read
    | some name =>
      obtain ⟨written, unbracketed⟩ := owned name rfl
      have read := ofString_brackets written.trim_eq unbracketed closed remembers
      rwa [List.append_assoc, ← shape, ← String.toList_append, String.ofList_toList, if_neg written.ne_nil,
        String.ofList_toList, String.ofList_toList] at read
  | plain trimmed other whole =>
    exact ofString_eq_plain_iff.mpr ⟨by rw [text, trimmed, String.ofList_toList], other, whole⟩

/-- What is made of a name is in normal form. A plain name has no blanks around it and is read as itself. The
marker of a history is a pair of brackets that is read as a history without an owner; an owner is a name of its
own without a bracket, and written before the marker it is found again. Conversely, any such owner before any
such brackets is read as their history. -/
theorem names_reread :
    (∀ written name, ofString written = .plain name →
      Text.trim name.toList = name.toList ∧ ofString name = .plain name) ∧
    (∀ written owner marker, ofString written = .history owner marker →
      (∃ inside : String, marker = "[" ++ inside ++ "]" ∧ ']' ∉ inside.toList ∧ 'H' ∈ inside.toList) ∧
      ofString marker = .history none marker ∧
      ∀ name, owner = some name → name ≠ "" ∧ Text.trim name.toList = name.toList ∧ '[' ∉ name.toList ∧
        ofString (name ++ marker) = .history (some name) marker) ∧
    ∀ name inside : String, name ≠ "" → Text.trim name.toList = name.toList → '[' ∉ name.toList →
      'H' ∈ inside.toList → ']' ∉ inside.toList →
      ofString (name ++ "[" ++ inside ++ "]") = .history (some name) ("[" ++ inside ++ "]") := by
  refine ⟨?_, ?_, ?_⟩
  · intro written name read
    have normal := ofString_normal written
    rw [read] at normal
    cases normal with
    | plain trimmed other whole => exact ⟨trimmed, (Normal.plain trimmed other whole).ofString_text⟩
  · intro written owner marker read
    have normal := ofString_normal written
    rw [read] at normal
    cases normal with
    | history bracketed owned =>
      have alone : (history none marker).Normal := .history bracketed fun _ none => nomatch none
      refine ⟨bracketed, alone.ofString_text, ?_⟩
      rintro name rfl
      obtain ⟨present, unbracketed⟩ := owned name rfl
      exact ⟨present.ne_empty, present.trim_eq, unbracketed, (Normal.history bracketed owned).ofString_text⟩
  · intro name inside present trimmed unbracketed remembers closed
    have owned : (history (some name) ("[" ++ inside ++ "]")).Normal := by
      refine .history ⟨inside, rfl, closed, remembers⟩ ?_
      intro _ held
      cases held
      exact ⟨⟨present, trimmed⟩, unbracketed⟩
    have read := owned.ofString_text
    rwa [text, ← String.append_assoc, ← String.append_assoc] at read

/-- Brackets within brackets, closing brackets before and after them, and text around them. -/
theorem names_reread_bracketed :
    ofString "  Arr[0] [H] " = .plain "Arr[0] [H]" ∧ ofString "Arr[0] [H]" = .plain "Arr[0] [H]" ∧
      ofString "\u00a0A ] [x[H*] y] z" = .history (some "A ]") "[x[H*]" ∧
      ofString "[x[H*]" = .history none "[x[H*]" ∧
      ofString "A ][x[H*]" = .history (some "A ]") "[x[H*]" ∧
      ofString "A ][ H[\u3000]" = .history (some "A ]") "[ H[\u3000]" := by
  obtain ⟨plain, remembered, conversely⟩ := names_reread
  have first : ofString "  Arr[0] [H] " = .plain "Arr[0] [H]" := by decide
  have second : ofString "\u00a0A ] [x[H*] y] z" = .history (some "A ]") "[x[H*]" := by decide
  obtain ⟨-, alone, owned⟩ := remembered _ _ _ second
  obtain ⟨-, -, -, again⟩ := owned _ rfl
  exact ⟨first, (plain _ _ first).2, second, alone, again,
    conversely "A ]" " H[\u3000" (by decide) (by decide) (by decide) (by decide) (by decide)⟩

end Statechart.Name
