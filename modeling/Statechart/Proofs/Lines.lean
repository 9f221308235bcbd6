import Statechart.Analysis

/-! The lines of a text that is put together from two. What comes after a line feed cannot change
what the lines before it say: at most a carriage return moves from the end of a line into its
ending, and blanks at the ends of a line say nothing. -/
namespace Statechart

namespace Text

/-- What a line feed leaves of the characters before it. -/
def stripReturn (line : List Char) : List Char :=
  if line.getLast? = some '\r' then line.dropLast else line

private theorem stripReturn_cons (c : Char) (line : List Char) (long : line ≠ [] ∨ c ≠ '\r') :
    stripReturn (c :: line) = c :: stripReturn line := by
  cases line with
  | nil =>
    have other : c ≠ '\r' := by simpa using long
    simp [stripReturn, other]
  | cons d line =>
    simp only [stripReturn, List.getLast?_cons_cons, List.dropLast_cons_of_ne_nil (List.cons_ne_nil d line)]
    split <;> rfl

theorem trimEnd_concat_blank (text : List Char) (blank : isBlank c = true) :
    trimEnd (text ++ [c]) = trimEnd text := by
  simp [trimEnd, blank]

theorem trim_concat_blank (text : List Char) (blank : isBlank c = true) :
    trim (text ++ [c]) = trim text := by
  unfold trim trimStart
  rw [List.dropWhile_append]
  split
  · rename_i hollow
    simp only [List.isEmpty_iff] at hollow
    simp [hollow, blank]
  · exact trimEnd_concat_blank _ blank

theorem trim_append_blanks {blanks : List Char} (blank : ∀ c ∈ blanks, isBlank c = true)
    (text : List Char) : trim (text ++ blanks) = trim text := by
  induction blanks generalizing text with
  | nil => rw [List.append_nil]
  | cons c blanks ih =>
    obtain ⟨here, later⟩ := List.forall_mem_cons.mp blank
    rw [List.append_cons, ih later, trim_concat_blank text here]

/-- The carriage return that belongs to a line ending is a blank. -/
theorem trim_stripReturn (line : List Char) : trim (stripReturn line) = trim line := by
  unfold stripReturn
  split
  · rename_i returned
    obtain ⟨front, rfl⟩ := List.getLast?_eq_some_iff.mp returned
    rw [List.dropLast_concat, trim_concat_blank front (by decide)]
  · rfl

/-- Characters up to a line feed are a line of their own, whatever follows. -/
theorem lines_feed (rest : List Char) (free : '\n' ∉ line) :
    lines (line ++ '\n' :: rest) = stripReturn line :: lines rest := by
  induction line with
  | nil => rfl
  | cons c line ih =>
    obtain ⟨other, tailFree⟩ : c ≠ '\n' ∧ '\n' ∉ line := by simpa [eq_comm] using free
    by_cases ending : line = [] ∧ c = '\r'
    · obtain ⟨rfl, rfl⟩ := ending
      rfl
    · have long : line ≠ [] ∨ c ≠ '\r' := by
        by_cases empty : line = []
        · exact .inr fun returned => ending ⟨empty, returned⟩
        · exact .inl empty
      have unended : ∀ later, c = '\r' → line ++ '\n' :: rest ≠ '\n' :: later := by
        intro later returned shape
        cases line with
        | nil => simp [returned] at long
        | cons d line =>
          obtain ⟨rfl, -⟩ := List.cons.inj shape
          exact tailFree List.mem_cons_self
      rw [List.cons_append, lines.eq_4 _ _ other unended, ih tailFree, stripReturn_cons c line long]

/-- Characters without a line feed after them are a line too, unless there are none. -/
theorem lines_of_not_mem (free : '\n' ∉ line) (written : line ≠ []) : lines line = [line] := by
  induction line with
  | nil => contradiction
  | cons c line ih =>
    obtain ⟨other, tailFree⟩ : c ≠ '\n' ∧ '\n' ∉ line := by simpa [eq_comm] using free
    have unended : ∀ later, c = '\r' → line ≠ '\n' :: later := by
      rintro later - rfl
      exact tailFree List.mem_cons_self
    rw [lines.eq_4 _ _ other unended]
    by_cases last : line = []
    · subst last
      rfl
    · rw [ih tailFree last]

/-- A text is read line by line: it has no line feed, or it is what precedes its first line feed and
what follows it. -/
theorem feed_induction {motive : List Char → Prop}
    (last : ∀ line, '\n' ∉ line → motive line)
    (feed : ∀ line rest, '\n' ∉ line → motive rest → motive (line ++ '\n' :: rest))
    (text : List Char) : motive text := by
  by_cases broken : '\n' ∈ text
  · obtain ⟨line, rest, shape, free⟩ := List.eq_append_cons_of_mem broken
    rw [shape]
    exact feed line rest free (feed_induction last feed rest)
  · exact last text broken
termination_by text.length
decreasing_by
  rw [shape]
  simp only [List.length_append, List.length_cons]
  omega

/-- The line that one more line feed makes of nothing, at the start of a text or after another line
feed. Anywhere else it ends a line that is there already. -/
def gap (text : List Char) : List (List Char) :=
  if text = [] ∨ text.getLast? = some '\n' then [[]] else []

theorem gap_append_feed (line rest : List Char) : gap (line ++ '\n' :: rest) = gap rest := by
  cases rest with
  | nil => simp [gap]
  | cons c rest =>
    have final : (line ++ '\n' :: c :: rest).getLast? = (c :: rest).getLast? := by
      rw [List.getLast?_append, List.getLast?_cons_cons, Option.or_of_isSome (by simp)]
    simp [gap, final]

/-- A text that goes on after a line feed has the lines that it had before, but for blanks at their
ends, and then the lines of what was added. -/
theorem lines_append (text rest : List Char) :
    (lines (text ++ '\n' :: rest)).map trim =
      (lines text).map trim ++ (gap text ++ lines rest).map trim := by
  induction text using feed_induction with
  | last line free =>
    rw [lines_feed rest free, List.map_cons, trim_stripReturn]
    by_cases written : line = []
    · subst written
      rfl
    · have begun : line.getLast? ≠ some '\n' := fun final => free (List.mem_of_getLast? final)
      have ended : gap line = [] := by simp [gap, written, begun]
      rw [lines_of_not_mem free written, ended]
      rfl
  | feed line later free ih =>
    rw [List.append_assoc, List.cons_append, lines_feed _ free, lines_feed _ free, gap_append_feed,
      List.map_cons, ih]
    rfl

end Text

/-- The number of lines of a text. -/
def lineCount (text : String) : Nat :=
  (Text.lines text.toList).length

/-- What the lines of a text do. -/
def classifiedLines (lines : List (List Char)) : List Line :=
  lines.map fun line => Line.classify (String.ofList line)

/-- What a line does depends on what is left of it without the blanks at its ends. -/
theorem classifiedLines_eq (lines : List (List Char)) :
    classifiedLines lines = (lines.map Text.trim).map Line.ofTrimmed := by
  simp [classifiedLines, Line.classify]

theorem classifiedLines_congr (same : as.map Text.trim = bs.map Text.trim) :
    classifiedLines as = classifiedLines bs := by
  rw [classifiedLines_eq, classifiedLines_eq, same]

/-- A diagram that goes on after a line feed has the numbered lines that it had before, and the ones
that were added are numbered from there on. -/
theorem numberedLines_append (text added : String) :
    numberedLines (text ++ "\n" ++ added) = numberedLines text ++
      (classifiedLines (Text.gap text.toList ++ Text.lines added.toList)).zipIdx
        (lineCount text + 1) := by
  have joined : (text ++ "\n" ++ added).toList = text.toList ++ '\n' :: added.toList := by simp
  have same : classifiedLines (Text.lines (text ++ "\n" ++ added).toList) =
      classifiedLines (Text.lines text.toList ++
        (Text.gap text.toList ++ Text.lines added.toList)) := by
    apply classifiedLines_congr
    rw [joined, Text.lines_append]
    exact List.map_append.symm
  calc numberedLines (text ++ "\n" ++ added)
      = (classifiedLines (Text.lines (text ++ "\n" ++ added).toList)).zipIdx 1 := rfl
    _ = (classifiedLines (Text.lines text.toList) ++
          classifiedLines (Text.gap text.toList ++ Text.lines added.toList)).zipIdx 1 := by
        rw [same, classifiedLines, List.map_append]
        rfl
    _ = _ := by
        rw [List.zipIdx_append, classifiedLines, List.length_map, Nat.add_comm]
        rfl

theorem numberedLines_length (text : String) : (numberedLines text).length = lineCount text := by
  rw [numberedLines, List.length_zipIdx, List.length_map]
  rfl

/-- The numbers of the lines increase. -/
theorem numberedLines_ordered (text : String) :
    (numberedLines text).Pairwise fun first second => first.2 < second.2 := by
  unfold numberedLines
  rw [← List.pairwise_map (f := Prod.snd) (R := (· < ·)), List.zipIdx_map_snd]
  exact List.pairwise_lt_range'

/-- They count the lines from one on. -/
theorem number_bounds {text : String} {entry : Line × Nat} (member : entry ∈ numberedLines text) :
    1 ≤ entry.2 ∧ entry.2 ≤ lineCount text := by
  have above := List.le_snd_of_mem_zipIdx member
  have below := List.snd_lt_of_mem_zipIdx member
  rw [List.length_map] at below
  exact ⟨above, by unfold lineCount; omega⟩

/-- Every line of a diagram is read from a line of its text. -/
theorem exists_line_of_mem {text : String} {entry : Line × Nat} (member : entry ∈ numberedLines text) :
    ∃ line ∈ Text.lines text.toList, entry.1 = Line.classify (String.ofList line) := by
  obtain ⟨line, there, same⟩ := List.mem_map.mp (List.fst_mem_of_mem_zipIdx member)
  exact ⟨line, there, same.symm⟩

theorem classified_of_mem {text : String} {entry : Line × Nat} (member : entry ∈ numberedLines text) :
    ∃ line, entry.1 = Line.classify line := by
  obtain ⟨line, -, classified⟩ := exists_line_of_mem member
  exact ⟨_, classified⟩

/-- The number of a line is one more than the number of lines before it. -/
theorem number_of_split {text : String} {earlier later : List (Line × Nat)} {line : Line}
    {number : Nat} (split : numberedLines text = earlier ++ (line, number) :: later) :
    number = earlier.length + 1 := by
  have here : (numberedLines text)[earlier.length]? = some (line, number) := by
    rw [split, List.getElem?_append_right (Nat.le_refl _), Nat.sub_self]
    rfl
  rw [numberedLines, List.getElem?_zipIdx] at here
  obtain ⟨_, -, same⟩ := Option.map_eq_some_iff.mp here
  have numbered : 1 + earlier.length = number := congrArg Prod.snd same
  omega

/-- Up to a line there is what stands before it. -/
theorem take_of_split {text : String} {earlier later : List (Line × Nat)} {line : Line} {number : Nat}
    (split : numberedLines text = earlier ++ (line, number) :: later) :
    (numberedLines text).take (number - 1) = earlier := by
  rw [number_of_split split, split, Nat.add_sub_cancel, List.take_left]

theorem take_succ_of_split {text : String} {earlier later : List (Line × Nat)} {line : Line}
    {number : Nat} (split : numberedLines text = earlier ++ (line, number) :: later) :
    (numberedLines text).take number = earlier ++ [(line, number)] := by
  rw [split, List.append_cons]
  exact List.take_left' (by simp [number_of_split split])

/-- There is a place for each number. -/
theorem exists_split {text : String} {number : Nat} (positive : 1 ≤ number)
    (within : number ≤ lineCount text) :
    ∃ earlier line later, numberedLines text = earlier ++ (line, number) :: later := by
  have written : number - 1 < (numberedLines text).length := by
    rw [numberedLines_length]
    omega
  obtain ⟨⟨line, counted⟩, here⟩ : ∃ entry, (numberedLines text)[number - 1] = entry := ⟨_, rfl⟩
  have split : numberedLines text = (numberedLines text).take (number - 1) ++
      (line, counted) :: (numberedLines text).drop (number - 1 + 1) := by
    rw [← here, ← List.drop_eq_getElem_cons written, List.take_append_drop]
  have place := number_of_split split
  rw [List.length_take_of_le (Nat.le_of_lt written)] at place
  obtain rfl : counted = number := by omega
  exact ⟨_, line, _, split⟩

/-- There is one place for each number. -/
theorem split_unique {text : String} {earlier later earlier' later' : List (Line × Nat)}
    {line line' : Line} {number : Nat}
    (split : numberedLines text = earlier ++ (line, number) :: later)
    (split' : numberedLines text = earlier' ++ (line', number) :: later') :
    earlier = earlier' ∧ line = line' := by
  have place := number_of_split split
  have place' := number_of_split split'
  obtain ⟨same, rest⟩ := List.append_inj (split.symm.trans split') (by omega)
  cases rest
  exact ⟨same, rfl⟩

/-- The lines before a line have smaller numbers. -/
theorem number_lt_of_split {text : String} {earlier later : List (Line × Nat)} {line : Line}
    {number : Nat} {entry : Line × Nat}
    (split : numberedLines text = earlier ++ (line, number) :: later) (member : entry ∈ earlier) :
    entry.2 < number := by
  have place := number_of_split split
  obtain ⟨before, between, rfl⟩ := List.append_of_mem member
  rw [List.append_assoc, List.cons_append] at split
  have earlierPlace := number_of_split split
  simp only [List.length_append, List.length_cons] at place
  omega

end Statechart
