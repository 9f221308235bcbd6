import Mathlib.Data.List.TakeWhile
import Statechart.Arrow
import Statechart.Proofs.Marks

/-! The language of the arrows. What is stripped off the start of a text is an arrow, and whatever follows
an arrow, all of it is stripped off: it ends at its only `>`. So a line is split at the leftmost place where
an arrow stands, and is not split exactly if no arrow occurs in it. -/
namespace Statechart.Arrow

/-- An arrow is written with one or more dashes, possibly a direction and more dashes, and `>`. -/
def IsArrow (text : List Char) : Prop :=
  ∃ m direction n, (direction = [] ∨ direction ∈ directions) ∧
    text = List.replicate (m + 1) '-' ++ direction ++ List.replicate n '-' ++ ['>']

/-- No arrow occurs in a text. -/
def Absent (text : List Char) : Prop :=
  ∀ arrow, IsArrow arrow → ¬ arrow <:+: text

variable {text front back rest arrow : List Char} {c : Char}

theorem IsArrow.not_mem (drawn : IsArrow arrow) (dash : c ≠ '-') (tip : c ≠ '>')
    (word : ∀ direction ∈ directions, c ∉ direction) : c ∉ arrow := by
  obtain ⟨m, direction, n, directed, rfl⟩ := drawn
  have outside : c ∉ direction := by
    rcases directed with rfl | member
    · exact List.not_mem_nil
    · exact word direction member
  simp [List.mem_replicate, dash, tip, outside]

theorem dropWhile_dashes (n : Nat) (text : List Char) :
    (List.replicate n '-' ++ text).dropWhile (· == '-') = text.dropWhile (· == '-') := by
  induction n with
  | zero => rfl
  | succ n ih => simp [List.replicate_succ, ih]

/-- The dashes that a text starts with. -/
theorem exists_dashes (text : List Char) :
    ∃ n, text = List.replicate n '-' ++ text.dropWhile (· == '-') := by
  refine ⟨(text.takeWhile (· == '-')).length, ?_⟩
  have dashes : ∀ c ∈ text.takeWhile (· == '-'), c = '-' := by
    intro c member
    simpa using List.mem_takeWhile_imp member
  rw [← List.eq_replicate_of_mem dashes, List.takeWhile_append_dropWhile]

theorem tail?_eq_some_iff : tail? text = some rest ↔ ∃ n, text = List.replicate n '-' ++ '>' :: rest := by
  constructor
  · intro stripped
    obtain ⟨n, shape⟩ := exists_dashes text
    unfold tail? at stripped
    split at stripped
    · rename_i later ended
      cases stripped
      rw [ended] at shape
      exact ⟨n, shape⟩
    · cases stripped
  · rintro ⟨n, rfl⟩
    unfold tail?
    rw [dropWhile_dashes]
    rfl

/-- A direction starts with a letter, and the letter tells which one it is. -/
theorem findSome?_directions {direction : List Char} (member : direction ∈ directions)
    (rest : List Char) :
    (direction ++ rest).dropWhile (· == '-') = direction ++ rest ∧
      directions.findSome? (·.isPrefixOf? (direction ++ rest)) = some rest := by
  simp only [directions, List.mem_cons, List.not_mem_nil, or_false] at member
  rcases member with rfl | rfl | rfl | rfl <;> exact ⟨rfl, rfl⟩

/-- What is stripped off the start of a text is an arrow. -/
theorem strip?_eq_some_iff :
    strip? text = some rest ↔ ∃ arrow, IsArrow arrow ∧ text = arrow ++ rest := by
  constructor
  · intro stripped
    unfold strip? at stripped
    split at stripped
    · rename_i dashed
      obtain ⟨m, dashes⟩ := exists_dashes dashed
      dsimp only at stripped
      split at stripped
      · rename_i later directed
        obtain ⟨direction, member, written⟩ := List.exists_of_findSome?_eq_some directed
        rw [← List.isPrefixOf?_eq_some_iff_append_eq.mp written] at dashes
        obtain ⟨n, rfl⟩ := tail?_eq_some_iff.mp stripped
        refine ⟨_, ⟨m, direction, n, .inr member, rfl⟩, ?_⟩
        rw [dashes]
        simp [List.replicate_succ]
      · obtain ⟨n, undirected⟩ := tail?_eq_some_iff.mp stripped
        rw [undirected, ← List.append_assoc, List.replicate_append_replicate] at dashes
        refine ⟨_, ⟨m + n, [], 0, .inl rfl, rfl⟩, ?_⟩
        rw [dashes]
        simp [List.replicate_succ]
    · cases stripped
  · rintro ⟨_, ⟨m, direction, n, directed, rfl⟩, rfl⟩
    have shape : List.replicate (m + 1) '-' ++ direction ++ List.replicate n '-' ++ ['>'] ++ rest =
        '-' :: (List.replicate m '-' ++ (direction ++ (List.replicate n '-' ++ '>' :: rest))) := by
      simp [List.replicate_succ]
    rw [shape, strip?, dropWhile_dashes]
    rcases directed with rfl | member
    · rw [List.nil_append, dropWhile_dashes]
      rfl
    · obtain ⟨kept, known⟩ := findSome?_directions member (List.replicate n '-' ++ '>' :: rest)
      rw [kept, known]
      exact tail?_eq_some_iff.mpr ⟨n, rfl⟩

/-- A line is not split exactly if there is no arrow in it. -/
theorem split?_eq_none_iff : split? text = none ↔ Absent text := by
  rw [split?, Text.seek_eq_none_iff]
  constructor
  · rintro fails arrow drawn ⟨before, after, rfl⟩
    have stripped : strip? (arrow ++ after) = some after := strip?_eq_some_iff.mpr ⟨arrow, drawn, rfl⟩
    rw [fails (arrow ++ after) ⟨before, by simp⟩] at stripped
    cases stripped
  · intro absent rest inside
    rw [Option.eq_none_iff_forall_ne_some]
    intro after stripped
    obtain ⟨arrow, drawn, rfl⟩ := strip?_eq_some_iff.mp stripped
    exact absent arrow drawn ((List.prefix_append arrow after).isInfix.trans inside.isInfix)

/-- A line is split at the leftmost arrow in it. -/
theorem split?_eq_some_iff {before : List Char} :
    split? text = some (before, rest) ↔
      ∃ arrow, IsArrow arrow ∧ text = before ++ arrow ++ rest ∧
        ∀ front other back, IsArrow other → text = front ++ other ++ back →
          before.length ≤ front.length := by
  rw [split?, Text.seek_eq_some_iff]
  constructor
  · rintro ⟨_, rfl, stripped, least⟩
    obtain ⟨arrow, drawn, rfl⟩ := strip?_eq_some_iff.mp stripped
    refine ⟨arrow, drawn, by rw [List.append_assoc], ?_⟩
    intro front other back drawnThere split
    have strippedThere : strip? (other ++ back) = some back :=
      strip?_eq_some_iff.mpr ⟨other, drawnThere, rfl⟩
    exact least front (other ++ back) (by rw [split, List.append_assoc]) (by simp [strippedThere])
  · rintro ⟨arrow, drawn, rfl, least⟩
    refine ⟨arrow ++ rest, by rw [List.append_assoc], strip?_eq_some_iff.mpr ⟨arrow, drawn, rfl⟩, ?_⟩
    intro front back split hits
    obtain ⟨after, stripped⟩ := Option.ne_none_iff_exists'.mp hits
    obtain ⟨other, drawnThere, rfl⟩ := strip?_eq_some_iff.mp stripped
    exact least front other after drawnThere (by rw [split, List.append_assoc])

/-- A text without a `>` contains no arrow. -/
theorem absent_of_not_mem (free : '>' ∉ text) : Absent text := by
  rintro _ ⟨m, direction, n, -, rfl⟩ inside
  exact free (inside.subset (List.mem_append_right _ List.mem_cons_self))

theorem Absent.of_isInfix (absent : Absent text) (part : front <:+: text) : Absent front :=
  fun arrow drawn inside => absent arrow drawn (inside.trans part)

theorem Absent.cons (absent : Absent back) (apart : ∀ arrow, IsArrow arrow → c ∉ arrow) :
    Absent (c :: back) :=
  fun arrow drawn inside => absent arrow drawn (Text.isInfix_of_isInfix_cons (apart arrow drawn) inside)

/-- A character that is in no arrow keeps arrows apart. -/
theorem Absent.append_cons (before : Absent front) (after : Absent back)
    (apart : ∀ arrow, IsArrow arrow → c ∉ arrow) : Absent (front ++ c :: back) := by
  intro arrow drawn inside
  rcases Text.isInfix_of_not_mem (apart arrow drawn) inside with early | late
  · exact before arrow drawn early
  · exact after arrow drawn late

/-- A line is split at an arrow with a blank before it, if there is no arrow further left. -/
theorem split?_arrow (absent : Absent front) (drawn : IsArrow arrow) (rest : List Char) :
    split? (front ++ [' '] ++ (arrow ++ rest)) = some (front ++ [' '], rest) := by
  have fails : ∀ part, part ≠ [] → part <:+ front ++ [' '] →
      strip? (part ++ (arrow ++ rest)) = none := by
    intro part written inside
    rw [Option.eq_none_iff_forall_ne_some]
    intro after stripped
    obtain ⟨other, drawnThere, shape⟩ := strip?_eq_some_iff.mp stripped
    -- The part ends with the blank, before which the other arrow would have to lie.
    rcases List.suffix_concat_iff.mp inside with rfl | ⟨early, rfl, earlier⟩
    · exact written rfl
    · have begins : other <+: early ++ ' ' :: (arrow ++ rest) := ⟨after, by simpa using shape.symm⟩
      have free : ' ' ∉ other := drawnThere.not_mem (by decide) (by decide) (by decide)
      have there := Text.isPrefix_of_not_mem free begins
      exact absent other drawnThere (there.isInfix.trans earlier.isInfix)
  have found : Text.seek strip? (arrow ++ rest) = some ([], rest) :=
    Text.seek_of_found (strip?_eq_some_iff.mpr ⟨arrow, drawn, rfl⟩)
  rw [split?, Text.seek_append_of_suffix fails, found]
  simp

end Statechart.Arrow
