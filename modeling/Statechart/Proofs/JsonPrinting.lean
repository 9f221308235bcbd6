import Mathlib
import Statechart.Json.Printer
import Statechart.Proofs.JsonTexts

/-! What the printer writes is a text of the value that is printed, whatever strings and natural numbers
are in it. New lines and indentation are gaps, a character that may not stand in a string is written
in one of the other ways, and a number is written without a needless zero. -/
namespace Statechart

namespace Text

theorem ofDigits_toDigits (n : Nat) : ofDigits (Nat.toDigits 10 n) = n := by
  have same : ofDigits (Nat.toDigits 10 n) = Nat.ofDigitChars 10 (Nat.toDigits 10 n) 0 := by
    simp only [ofDigits, Nat.ofDigitChars_eq_foldl, Nat.mul_comm]
  rw [same, Nat.ofDigitChars_ten_toDigits]

/-- The digits of a number other than zero do not start with a zero. -/
theorem head?_toDigits_ne {n : Nat} (positive : 0 < n) : (Nat.toDigits 10 n).head? ≠ some '0' := by
  induction n using Nat.strong_induction_on with
  | _ n ih =>
    by_cases single : n < 10
    · have known : ∀ m < 10, 0 < m → [Nat.digitChar m].head? ≠ some '0' := by decide
      rw [Nat.toDigits_of_lt_base single]
      exact known n single positive
    · rw [Nat.toDigits_of_base_le (by decide) (Nat.le_of_not_lt single),
        List.head?_append_of_ne_nil _ Nat.toDigits_ne_nil]
      exact ih (n / 10) (by omega) (by omega)

theorem isWhole_toDigits (n : Nat) : isWhole (Nat.toDigits 10 n) = true := by
  rcases Nat.eq_zero_or_pos n with rfl | positive
  · decide
  · unfold isWhole
    split
    · rename_i empty
      exact absurd empty Nat.toDigits_ne_nil
    · rename_i rest zero
      refine absurd ?_ (head?_toDigits_ne positive)
      rw [zero, List.head?_cons]
    · exact List.all_eq_true.mpr fun c member =>
        Nat.isDigit_of_mem_toDigits (by decide) (by decide) member

end Text

namespace Json

/-- The number of a control character, written with four digits. -/
theorem hexNumber?_control : ∀ n < 0x20,
    Text.hexNumber? 0 ['0', '0', Nat.digitChar (n / 16), Nat.digitChar (n % 16)] = some n := by
  decide

theorem spellsChar_escape (c : Char) : SpellsChar c (escape c) := by
  unfold escape
  split_ifs with quotation backslash backspace feed newline ret tab control
  · subst quotation
    exact .marked (by decide)
  · subst backslash
    exact .marked (by decide)
  · subst backspace
    exact .marked (by decide)
  · subst feed
    exact .marked (by decide)
  · subst newline
    exact .marked (by decide)
  · subst ret
    exact .marked (by decide)
  · subst tab
    exact .marked (by decide)
  · exact .numbered rfl (hexNumber?_control c.toNat control)
  · exact .bare quotation backslash (Nat.le_of_not_lt control)

theorem spellsChars_escape (cs : List Char) : SpellsChars cs (cs.flatMap escape) := by
  induction cs with
  | nil => exact .nil
  | cons c later ih => exact .cons (spellsChar_escape c) ih

theorem isGaps_nil : IsGaps [] := by simp [IsGaps]

theorem isGaps_newLine (level : Nat) : IsGaps (newLine level) := by
  intro c member
  rcases List.mem_cons.mp member with rfl | indent
  · decide
  · rw [List.eq_of_mem_replicate indent]
    decide

/-- At every level, what is printed writes the value. -/
def PrintsText (v : Json) : Prop :=
  ∀ level, Spells v (print level v)

variable {level : Nat} {v : Json}

@[simp] theorem printsText_null : PrintsText .null := fun _ => .null

@[simp] theorem printsText_natural (n : Nat) : PrintsText (.natural n) := by
  intro level
  have spells := Spells.natural (Text.isWhole_toDigits n)
  rw [Text.ofDigits_toDigits] at spells
  exact spells

@[simp] theorem printsText_string (s : String) : PrintsText (.string s) :=
  fun _ => .string (spellsChars_escape s.toList)

theorem spellsItems_print {item : Json} {later : List Json} {after : List Char}
    (printed : ∀ v ∈ item :: later, PrintsText v) (gapAfter : IsGaps after) :
    SpellsItems (item :: later)
      (newLine level ++ print level item ++ (printItems level later ++ after)) := by
  induction later generalizing item with
  | nil =>
    have spells := printed item List.mem_cons_self level
    simpa [printItems] using SpellsItems.last (isGaps_newLine level) spells gapAfter
  | cons next others ih =>
    have spells := printed item List.mem_cons_self level
    have rest := ih fun v member => printed v (List.mem_cons_of_mem item member)
    simpa [printItems] using SpellsItems.more (isGaps_newLine level) spells isGaps_nil rest

@[simp] theorem printsText_array {items : List Json} (printed : ∀ v ∈ items, PrintsText v) :
    PrintsText (.array items) := by
  intro level
  cases items with
  | nil => exact .emptyArray isGaps_nil
  | cons item later =>
    have written : SpellsItems (item :: later) (newLine (level + 1) ++ print (level + 1) item ++
        (printItems (level + 1) later ++ newLine level)) :=
      spellsItems_print printed (isGaps_newLine level)
    simpa [print] using Spells.array written

theorem spellsMembers_print {name : String} {value : Json} {later : List (String × Json)}
    {after : List Char} (printed : ∀ member ∈ (name, value) :: later, PrintsText member.2)
    (gapAfter : IsGaps after) :
    SpellsMembers ((name, value) :: later)
      (newLine level ++ quote name ++ [':', ' '] ++ print level value ++
        (printMembers level later ++ after)) := by
  have space : IsGaps [' '] := by simp [IsGaps, isGap]
  have chars := spellsChars_escape name.toList
  have spells := printed (name, value) List.mem_cons_self level
  induction later generalizing name value with
  | nil =>
    simpa [printMembers, quote] using
      SpellsMembers.last (isGaps_newLine level) chars isGaps_nil space spells gapAfter
  | cons next others ih =>
    obtain ⟨nextName, nextValue⟩ := next
    have printedLater : ∀ member ∈ (nextName, nextValue) :: others, PrintsText member.2 :=
      fun member inside => printed member (List.mem_cons_of_mem _ inside)
    have rest := ih printedLater (spellsChars_escape _) (printedLater _ List.mem_cons_self level)
    simpa [printMembers, quote] using
      SpellsMembers.more (isGaps_newLine level) chars isGaps_nil space spells isGaps_nil rest

@[simp] theorem printsText_object {members : List (String × Json)}
    (printed : ∀ member ∈ members, PrintsText member.2) : PrintsText (.object members) := by
  intro level
  cases members with
  | nil => exact .emptyObject isGaps_nil
  | cons first later =>
    obtain ⟨name, value⟩ := first
    have written : SpellsMembers ((name, value) :: later) (newLine (level + 1) ++ quote name ++
        [':', ' '] ++ print (level + 1) value ++ (printMembers (level + 1) later ++ newLine level)) :=
      spellsMembers_print printed (isGaps_newLine level)
    simpa [print] using Spells.object written

end Json

end Statechart
