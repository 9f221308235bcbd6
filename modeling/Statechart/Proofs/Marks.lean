import Mathlib.Data.List.Infix
import Statechart.Text.Search

/-! Marks in a text. A search fails exactly if it fails at every place, so a mark is not found exactly if it
does not occur. If something cannot start in the front of a text, it is found behind it. And a mark lies on
one side of any character that it does not contain. -/
namespace Statechart.Text

variable {α : Type} {found : List Char → Option α} {front back mark text : List Char} {c : Char}

/-- A search fails if it fails at every place. -/
theorem seek_eq_none_iff : seek found text = none ↔ ∀ rest, rest <:+ text → found rest = none := by
  induction text with
  | nil => simp [seek]
  | cons c text ih =>
    simp only [List.suffix_cons_iff, forall_eq_or_imp, ← ih]
    rw [seek.eq_2]
    cases found (c :: text) <;> simp

/-- A search stops at the first place where something is found. -/
theorem seek_eq_some_iff {before : List Char} {hit : α} :
    seek found text = some (before, hit) ↔
      ∃ rest, text = before ++ rest ∧ found rest = some hit ∧
        ∀ front back, text = front ++ back → found back ≠ none → before.length ≤ front.length := by
  induction text generalizing before with
  | nil =>
    simp only [seek, Option.map_eq_some_iff, Prod.mk.injEq, List.nil_eq_append_iff]
    constructor
    · rintro ⟨_, here, rfl, rfl⟩
      exact ⟨[], ⟨rfl, rfl⟩, here, by simp⟩
    · rintro ⟨_, ⟨rfl, rfl⟩, here, -⟩
      exact ⟨hit, here, rfl, rfl⟩
  | cons c text ih =>
    rw [seek.eq_2]
    cases here : found (c :: text) with
    | some first =>
      constructor
      · intro same
        cases same
        exact ⟨c :: text, rfl, here, by simp⟩
      · rintro ⟨rest, shape, there, least⟩
        have nothing := least [] (c :: text) rfl (by simp [here])
        obtain rfl := List.length_eq_zero_iff.mp (Nat.le_zero.mp nothing)
        rw [List.nil_append] at shape
        rw [← shape, here] at there
        cases there
        rfl
    | none =>
      simp only [Option.map_eq_some_iff, Prod.mk.injEq, Prod.exists]
      constructor
      · rintro ⟨earlier, _, later, rfl, rfl⟩
        obtain ⟨rest, rfl, there, least⟩ := ih.mp later
        refine ⟨rest, rfl, there, ?_⟩
        intro front back split hits
        cases front with
        | nil =>
          rw [List.nil_append] at split
          rw [← split, here] at hits
          exact absurd rfl hits
        | cons d front =>
          obtain ⟨-, splitLater⟩ := List.cons.inj split
          simpa using least front back splitLater hits
      · rintro ⟨rest, shape, there, least⟩
        cases before with
        | nil =>
          rw [List.nil_append] at shape
          rw [← shape, here] at there
          cases there
        | cons d before =>
          obtain ⟨rfl, shapeLater⟩ := List.cons.inj shape
          refine ⟨before, hit, ih.mpr ⟨rest, shapeLater, there, ?_⟩, rfl, rfl⟩
          intro front back split hits
          simpa using least (c :: front) back (by rw [split, List.cons_append]) hits

/-- What is not found at any place in the front of a text is found behind it. -/
theorem seek_append_of_suffix
    (fails : ∀ part, part ≠ [] → part <:+ front → found (part ++ back) = none) :
    seek found (front ++ back) =
      (seek found back).map fun (before, hit) => (front ++ before, hit) := by
  induction front with
  | nil => simp
  | cons c front ih =>
    have here : found (c :: (front ++ back)) = none := fails _ (by simp) List.suffix_rfl
    have later := ih fun part written inside => fails part written (inside.trans (List.suffix_cons _ _))
    rw [List.cons_append, seek.eq_2, here, later]
    simp [Option.map_map, Function.comp_def]

theorem seek_of_found {hit : α} (here : found text = some hit) : seek found text = some ([], hit) := by
  cases text <;> simp [seek, here]

theorem isPrefixOf?_eq_none_iff : mark.isPrefixOf? text = none ↔ ¬ mark <+: text := by
  rw [← not_iff_not, not_not, ← ne_eq, Option.ne_none_iff_exists']
  simp only [List.isPrefixOf?_eq_some_iff_append_eq]
  exact Iff.rfl

/-- A mark is not found exactly if it does not occur. -/
theorem cut?_eq_none_iff : cut? mark text = none ↔ ¬ mark <:+: text := by
  rw [cut?, seek_eq_none_iff, List.infix_iff_prefix_suffix]
  simp only [isPrefixOf?_eq_none_iff]
  grind

/-- A mark does not occur in a text that lacks its first character. -/
theorem cut?_eq_none {c : Char} {text : List Char} (free : c ∉ text) (mark : List Char) :
    cut? (c :: mark) text = none :=
  cut?_eq_none_iff.mpr fun inside => free (inside.subset List.mem_cons_self)

/-- What is found is a mark, with what was answered on both sides of it. -/
theorem eq_of_cut? {before after : List Char} (cut : cut? mark text = some (before, after)) :
    text = before ++ mark ++ after := by
  obtain ⟨rest, rfl, found, -⟩ := seek_eq_some_iff.mp cut
  rw [List.append_assoc, List.isPrefixOf?_eq_some_iff_append_eq.mp found]

/-- Cutting at a character takes the text apart at its first occurrence. -/
theorem cut?_eq_some_iff {c : Char} {text before after : List Char} :
    cut? [c] text = some (before, after) ↔ c ∉ before ∧ text = before ++ c :: after := by
  unfold cut?
  induction text generalizing before with
  | nil => simp [seek]
  | cons d rest ih =>
    unfold seek
    by_cases here : c = d
    · subst here
      cases before with
      | nil => simp [List.isPrefixOf?, eq_comm]
      | cons e before =>
        have elsewhere : ¬ (c ∉ e :: before ∧ c :: rest = e :: before ++ c :: after) := by
          rintro ⟨free, shape⟩
          obtain ⟨rfl, -⟩ := List.cons.inj shape
          exact free List.mem_cons_self
        rw [iff_false_right elsewhere]
        simp [List.isPrefixOf?]
    · have skipped : [c].isPrefixOf? (d :: rest) = none := by simp [List.isPrefixOf?, here]
      rw [skipped]
      cases before with
      | nil => simp [Ne.symm here]
      | cons e before =>
        simp only [Option.map_eq_some_iff, Prod.mk.injEq, List.cons.injEq, Prod.exists,
          List.mem_cons, not_or, List.cons_append]
        constructor
        · rintro ⟨b, a, hit, ⟨rfl, rfl⟩, rfl⟩
          obtain ⟨free, rfl⟩ := ih.mp hit
          exact ⟨⟨here, free⟩, rfl, rfl⟩
        · rintro ⟨⟨-, free⟩, rfl, rfl⟩
          exact ⟨before, after, ih.mpr ⟨free, rfl⟩, ⟨rfl, rfl⟩, rfl⟩

/-- A run of characters ends where a character does not belong to it. -/
theorem span_append {p : Char → Bool} (inside : ∀ c ∈ front, p c = true)
    (boundary : ∀ c ∈ back.head?, p c = false) : (front ++ back).span p = (front, back) := by
  have stopped : back.takeWhile p = [] ∧ back.dropWhile p = back := by
    cases back with
    | nil => exact ⟨rfl, rfl⟩
    | cons c back => simp [boundary c rfl]
  rw [List.span_eq_takeWhile_dropWhile, List.takeWhile_append_of_pos inside,
    List.dropWhile_append_of_pos inside, stopped.1, stopped.2, List.append_nil]

/-- A text that starts like another one and lacks a character lies before that character. -/
theorem isPrefix_of_not_mem (free : c ∉ mark) (begins : mark <+: front ++ c :: back) : mark <+: front := by
  induction front generalizing mark with
  | nil =>
    cases mark with
    | nil => exact List.nil_prefix
    | cons d mark =>
      rw [List.nil_append, List.cons_prefix_cons] at begins
      exact absurd (begins.1 ▸ List.mem_cons_self) free
  | cons d front ih =>
    cases mark with
    | nil => exact List.nil_prefix
    | cons e mark =>
      rw [List.cons_append, List.cons_prefix_cons] at begins
      rw [List.cons_prefix_cons]
      exact ⟨begins.1, ih (fun member => free (List.mem_cons_of_mem _ member)) begins.2⟩

/-- A mark lies behind a first character that it lacks. -/
theorem isInfix_of_isInfix_cons (free : c ∉ mark) (inside : mark <:+: c :: back) : mark <:+: back := by
  rcases List.infix_cons_iff.mp inside with begins | later
  · have nothing : mark <+: [] := isPrefix_of_not_mem free begins
    rw [List.prefix_nil.mp nothing]
    exact List.nil_infix
  · exact later

/-- A mark lies on one side of a character that it lacks. -/
theorem isInfix_of_not_mem (free : c ∉ mark) (inside : mark <:+: front ++ c :: back) :
    mark <:+: front ∨ mark <:+: back := by
  induction front with
  | nil => exact .inr (isInfix_of_isInfix_cons free inside)
  | cons d front ih =>
    rw [List.cons_append, List.infix_cons_iff] at inside
    rcases inside with begins | later
    · have before : mark <+: d :: front := isPrefix_of_not_mem free begins
      exact .inl before.isInfix
    · exact (ih later).imp_left fun there => there.trans (List.suffix_cons d front).isInfix

end Statechart.Text
