import Mathlib
import Statechart.Json.Reader
import Statechart.Proofs.Marks

/-! The texts that write a JSON value, and that reading finds the value. A character of a string may be
written in several ways, and gaps may stand between all parts, so many texts write one value; but no
text writes two, because reading answers with a value that depends on the text alone. Numbers with a
sign, a fraction or an exponent are left out, because nothing here writes one. -/
namespace Statechart

theorem Text.takeHex?_append {digits : List Char} (number : Text.hexNumber? 0 digits = some n)
    (rest : List Char) : Text.takeHex? digits.length (digits ++ rest) = some (n, rest) := by
  simp [Text.takeHex?, number]

namespace Text

theorem ne_nil_of_isWhole {digits : List Char} (whole : isWhole digits = true) : digits ≠ [] := by
  rintro rfl
  cases whole

theorem isDigit_of_isWhole {digits : List Char} (whole : isWhole digits = true) :
    ∀ c ∈ digits, c.isDigit = true := by
  unfold isWhole at whole
  split at whole
  · cases whole
  · simp [List.isEmpty_iff.mp whole]
  · exact List.all_eq_true.mp whole

end Text

namespace Json

variable {c : Char} {cs text body rest : List Char} {v : Json} {steps : Nat}

/-- The ways to write a character of a string. -/
inductive SpellsChar : Char → List Char → Prop where
  /-- As it is, unless it is a mark or a control character. -/
  | bare {c : Char} (unquoted : c ≠ '"') (unescaped : c ≠ '\\') (visible : 0x20 ≤ c.toNat) :
    SpellsChar c [c]
  /-- With a backslash and a mark. -/
  | marked {mark c : Char} (known : (mark, c) ∈ marks) : SpellsChar c ['\\', mark]
  /-- With four hexadecimal digits for its number. -/
  | numbered {c : Char} {digits : List Char} (four : digits.length = 4)
    (number : Text.hexNumber? 0 digits = some c.toNat) : SpellsChar c ('\\' :: 'u' :: digits)
  /-- With two such numbers, each of which stands for half of its bits. -/
  | paired {c : Char} {first second : List Char} {high low : Nat} (four : first.length = 4)
    (fourToo : second.length = 4) (upper : Text.hexNumber? 0 first = some high)
    (lower : Text.hexNumber? 0 second = some low) (isHigh : 0xD800 ≤ high ∧ high < 0xDC00)
    (isLow : 0xDC00 ≤ low ∧ low < 0xE000)
    (number : c.toNat = 0x10000 + (high - 0xD800) * 0x400 + (low - 0xDC00)) :
    SpellsChar c ('\\' :: 'u' :: first ++ '\\' :: 'u' :: second)

/-- The ways to write some characters, one after the other. -/
inductive SpellsChars : List Char → List Char → Prop where
  | nil : SpellsChars [] []
  | cons {c : Char} {cs text body : List Char} (char : SpellsChar c text)
    (later : SpellsChars cs body) : SpellsChars (c :: cs) (text ++ body)

/-- Any number of the characters that may stand between the parts of a value. -/
def IsGaps (text : List Char) : Prop :=
  ∀ c ∈ text, isGap c = true

mutual

/-- The texts that write a value and nothing around it. -/
inductive Spells : Json → List Char → Prop where
  | null : Spells .null "null".toList
  | isTrue : Spells (.bool true) "true".toList
  | isFalse : Spells (.bool false) "false".toList
  | natural {digits : List Char} (whole : Text.isWhole digits = true) :
    Spells (.natural (Text.ofDigits digits)) digits
  | string {s : String} {body : List Char} (chars : SpellsChars s.toList body) :
    Spells (.string s) ('"' :: body ++ ['"'])
  | emptyArray {gaps : List Char} (between : IsGaps gaps) : Spells (.array []) ('[' :: gaps ++ [']'])
  | array {items : List Json} {inner : List Char} (written : SpellsItems items inner) :
    Spells (.array items) ('[' :: inner ++ [']'])
  | emptyObject {gaps : List Char} (between : IsGaps gaps) :
    Spells (.object []) ('{' :: gaps ++ ['}'])
  | object {members : List (String × Json)} {inner : List Char}
    (written : SpellsMembers members inner) : Spells (.object members) ('{' :: inner ++ ['}'])

/-- The texts that write items, with commas between them. -/
inductive SpellsItems : List Json → List Char → Prop where
  | last {item : Json} {before text after : List Char} (gapBefore : IsGaps before)
    (spells : Spells item text) (gapAfter : IsGaps after) :
    SpellsItems [item] (before ++ text ++ after)
  | more {item : Json} {later : List Json} {before text after rest : List Char}
    (gapBefore : IsGaps before) (spells : Spells item text) (gapAfter : IsGaps after)
    (written : SpellsItems later rest) :
    SpellsItems (item :: later) (before ++ text ++ after ++ ',' :: rest)

/-- The texts that write members, with commas between them. -/
inductive SpellsMembers : List (String × Json) → List Char → Prop where
  | last {name : String} {value : Json} {before body between inside text after : List Char}
    (gapBefore : IsGaps before) (chars : SpellsChars name.toList body) (gapBetween : IsGaps between)
    (gapInside : IsGaps inside) (spells : Spells value text) (gapAfter : IsGaps after) :
    SpellsMembers [(name, value)]
      (before ++ '"' :: body ++ '"' :: between ++ ':' :: inside ++ text ++ after)
  | more {name : String} {value : Json} {later : List (String × Json)}
    {before body between inside text after rest : List Char}
    (gapBefore : IsGaps before) (chars : SpellsChars name.toList body) (gapBetween : IsGaps between)
    (gapInside : IsGaps inside) (spells : Spells value text) (gapAfter : IsGaps after)
    (written : SpellsMembers later rest) :
    SpellsMembers ((name, value) :: later)
      (before ++ '"' :: body ++ '"' :: between ++ ':' :: inside ++ text ++ after ++ ',' :: rest)

end

theorem readString_close (rest : List Char) : readString ('"' :: rest) = some ([], rest) := by
  rw [readString]
  simp

/-- A character that is written as it is. -/
theorem readString_bare (unquoted : c ≠ '"') (unescaped : c ≠ '\\') (visible : 0x20 ≤ c.toNat)
    (rest : List Char) :
    readString (c :: rest) = (readString rest).map fun read => (c :: read.1, read.2) := by
  rw [readString, if_neg unquoted, if_neg unescaped, if_neg (Nat.not_lt.mpr visible)]

/-- A character that is written with a backslash. -/
theorem readString_escaped (escaped : escaped? text = some (c, rest)) :
    readString ('\\' :: text) = (readString rest).map fun read => (c :: read.1, read.2) := by
  rw [readString, if_neg (by decide), if_pos rfl]
  split
  · rename_i failed
    cases escaped.symm.trans failed
  · rename_i c' rest' read
    cases escaped.symm.trans read
    rfl

/-- No character is half of a surrogate pair. -/
theorem toNat_not_surrogate (c : Char) : c.toNat < 0xD800 ∨ 0xE000 ≤ c.toNat := by
  rcases c.valid with low | high
  · exact .inl low
  · exact .inr high.1

/-- The letter of a number is no mark, and every mark is found. -/
theorem escaped?_mark {mark : Char} (known : (mark, c) ∈ marks) (rest : List Char) :
    escaped? (mark :: rest) = some (c, rest) := by
  have found : ∀ entry ∈ marks, entry.1 ≠ 'u' ∧ marks.lookup entry.1 = some entry.2 := by decide
  obtain ⟨letter, looked⟩ := found (mark, c) known
  unfold escaped?
  split
  · rename_i empty
    cases empty
  · rename_i same
    cases same
    exact absurd rfl letter
  · rename_i same
    cases same
    rw [looked, Option.map_some]

theorem numbered?_single {digits : List Char} (four : digits.length = 4)
    (number : Text.hexNumber? 0 digits = some c.toNat) (rest : List Char) :
    numbered? (digits ++ rest) = some (c, rest) := by
  have taken := Text.takeHex?_append number rest
  rw [four] at taken
  simp [numbered?, taken, toNat_not_surrogate c]

theorem numbered?_pair {first second : List Char} {high low : Nat} (four : first.length = 4)
    (fourToo : second.length = 4) (upper : Text.hexNumber? 0 first = some high)
    (lower : Text.hexNumber? 0 second = some low) (isHigh : 0xD800 ≤ high ∧ high < 0xDC00)
    (isLow : 0xDC00 ≤ low ∧ low < 0xE000)
    (number : c.toNat = 0x10000 + (high - 0xD800) * 0x400 + (low - 0xDC00)) (rest : List Char) :
    numbered? (first ++ '\\' :: 'u' :: (second ++ rest)) = some (c, rest) := by
  have takenFirst := Text.takeHex?_append upper ('\\' :: 'u' :: (second ++ rest))
  have takenSecond := Text.takeHex?_append lower rest
  rw [four] at takenFirst
  rw [fourToo] at takenSecond
  have half : ¬ (high < 0xD800 ∨ 0xE000 ≤ high) := by omega
  have whole : ofSurrogates high low = c := by rw [ofSurrogates, ← number, Char.ofNat_toNat]
  simp only [numbered?, takenFirst, takenSecond, if_neg half, if_neg (Nat.not_le.mpr isHigh.2), if_pos isLow,
    whole]

/-- However a character is written, it is read. -/
theorem SpellsChar.readString (spells : SpellsChar c text) (rest : List Char) :
    readString (text ++ rest) = (readString rest).map fun read => (c :: read.1, read.2) := by
  cases spells with
  | bare unquoted unescaped visible => exact readString_bare unquoted unescaped visible rest
  | marked known => exact readString_escaped (escaped?_mark known rest)
  | numbered four number => exact readString_escaped (numbered?_single four number rest)
  | paired four fourToo upper lower isHigh isLow number =>
    rw [List.append_assoc]
    exact readString_escaped (numbered?_pair four fourToo upper lower isHigh isLow number rest)

/-- However the characters of a string are written, they are read up to the closing mark. -/
theorem SpellsChars.readString (spells : SpellsChars cs body) (rest : List Char) :
    readString (body ++ '"' :: rest) = some (cs, rest) := by
  induction spells with
  | nil => exact readString_close rest
  | cons char _ ih => rw [List.append_assoc, char.readString, ih, Option.map_some]

/-- Gaps before a text are skipped with the gaps that it starts with. -/
theorem skipGap_append (gaps : IsGaps body) (text : List Char) : skipGap (body ++ text) = skipGap text :=
  List.dropWhile_append_of_pos gaps

theorem skipGap_cons (solid : isGap c = false) (text : List Char) : skipGap (c :: text) = c :: text :=
  List.dropWhile_cons_of_neg (Bool.not_eq_true _ ▸ solid)

/-- What follows a value does not go on with a number. -/
def Stops (rest : List Char) : Prop :=
  ∀ c ∈ rest.head?, isNumeric c = false

theorem stops_gaps (gaps : IsGaps body) (stops : Stops rest) : Stops (body ++ rest) := by
  cases body with
  | nil => exact stops
  | cons c later =>
    intro d first
    obtain rfl : c = d := by simpa using first
    have gap := gaps c List.mem_cons_self
    simp only [isGap, Bool.or_eq_true, beq_iff_eq] at gap
    rcases gap with ((rfl | rfl) | rfl) | rfl <;> decide

theorem stops_cons (other : isNumeric c = false) (rest : List Char) : Stops (c :: rest) := by
  intro d first
  obtain rfl : c = d := by simpa using first
  exact other

theorem isGap_of_isDigit (digit : c.isDigit = true) : isGap c = false := by
  rw [Bool.eq_false_iff]
  intro gap
  simp only [isGap, Bool.or_eq_true, beq_iff_eq] at gap
  rcases gap with ((rfl | rfl) | rfl) | rfl <;> simp at digit

/-- A value starts with a character that is neither a gap nor the end of an array. -/
theorem Spells.exists_head (spells : Spells v text) :
    ∃ c later, text = c :: later ∧ isGap c = false ∧ c ≠ ']' := by
  cases spells with
  | natural whole =>
    obtain ⟨c, later, rfl⟩ := List.exists_cons_of_ne_nil (Text.ne_nil_of_isWhole whole)
    have digit := Text.isDigit_of_isWhole whole c List.mem_cons_self
    refine ⟨c, later, rfl, isGap_of_isDigit digit, ?_⟩
    rintro rfl
    simp at digit
  | null | isTrue | isFalse | string | emptyArray | array | emptyObject | object =>
    exact ⟨_, _, rfl, by decide, by decide⟩

/-- No word starts with a digit. -/
theorem isPrefixOf?_of_isDigit {letter : Char} {word : List Char} (noDigit : letter.isDigit = false)
    (digit : c.isDigit = true) : (letter :: word).isPrefixOf? (c :: text) = none := by
  have other : (letter == c) = false := by
    rw [beq_eq_false_iff_ne]
    rintro rfl
    cases noDigit.symm.trans digit
  simp [List.isPrefixOf?, other]

/-- Digits that nothing continues are read as their number. -/
theorem readScalar_natural {digits : List Char} (whole : Text.isWhole digits = true) (stops : Stops rest) :
    readScalar (digits ++ rest) = some (.natural (Text.ofDigits digits), rest) := by
  have digit := Text.isDigit_of_isWhole whole
  have numeric : ∀ c ∈ digits, isNumeric c = true := by
    intro c member
    simp [isNumeric, digit c member]
  have run := Text.span_append numeric stops
  have noWord (letter : Char) (word : List Char) (noDigit : letter.isDigit = false) :
      (letter :: word).isPrefixOf? (digits ++ rest) = none := by
    obtain ⟨c, later, rfl⟩ := List.exists_cons_of_ne_nil (Text.ne_nil_of_isWhole whole)
    exact isPrefixOf?_of_isDigit noDigit (digit c List.mem_cons_self)
  unfold readScalar
  simp only [noWord 'n' ['u', 'l', 'l'] (by decide), noWord 't' ['r', 'u', 'e'] (by decide),
    noWord 'f' ['a', 'l', 's', 'e'] (by decide), String.reduceToList, run, number?, if_pos whole,
    Option.map_some]

theorem readValue_skipGap (steps : Nat) (text : List Char) :
    readValue steps (skipGap text) = readValue steps text := by
  cases steps with
  | zero => simp [readValue]
  | succ steps =>
    have twice : skipGap (skipGap text) = skipGap text := List.dropWhile_idempotent _ _
    simp only [readValue, twice]

/-- Gaps before a value do not count. -/
theorem readValue_gaps (gaps : IsGaps body) (steps : Nat) (text : List Char) :
    readValue steps (body ++ text) = readValue steps text := by
  rw [← readValue_skipGap, skipGap_append gaps, readValue_skipGap]

theorem readItems_skipGap (steps : Nat) (text : List Char) :
    readItems steps (skipGap text) = readItems steps text := by
  cases steps with
  | zero => simp [readItems]
  | succ steps => simp only [readItems, readValue_skipGap]

theorem readMembers_skipGap (steps : Nat) (text : List Char) :
    readMembers steps (skipGap text) = readMembers steps text := by
  cases steps with
  | zero => simp [readMembers]
  | succ steps =>
    have twice : skipGap (skipGap text) = skipGap text := List.dropWhile_idempotent _ _
    simp only [readMembers, twice]

theorem skipGap_gaps (gaps : IsGaps body) (solid : isGap c = false) (rest : List Char) :
    skipGap (body ++ c :: rest) = c :: rest := by
  rw [skipGap_append gaps, skipGap_cons solid]

/-- Items start with something that does not end their array. -/
theorem SpellsItems.exists_head {items : List Json} (written : SpellsItems items text) (rest : List Char) :
    ∃ c later, skipGap (text ++ rest) = c :: later ∧ c ≠ ']' := by
  cases written with
  | last gapBefore spells | more gapBefore spells =>
    obtain ⟨c, later, rfl, solid, other⟩ := spells.exists_head
    simp only [List.append_assoc, List.cons_append]
    exact ⟨c, _, skipGap_gaps gapBefore solid _, other⟩

/-- Members start with the name of the first. -/
theorem SpellsMembers.exists_head {members : List (String × Json)} (written : SpellsMembers members text)
    (rest : List Char) : ∃ later, skipGap (text ++ rest) = '"' :: later := by
  cases written with
  | last gapBefore | more gapBefore =>
    simp only [List.append_assoc, List.cons_append]
    exact ⟨_, skipGap_gaps gapBefore (by decide) _⟩

theorem readValue_array (written : ∃ c later, skipGap text = c :: later ∧ c ≠ ']') (steps : Nat) :
    readValue (steps + 1) ('[' :: text) =
      (readItems steps text).map fun read => (.array read.1, read.2) := by
  obtain ⟨c, later, starts, other⟩ := written
  rw [← readItems_skipGap steps text]
  simp only [readValue, skipGap_cons (show isGap '[' = false by decide), starts]
  split
  · rename_i same
    cases same
    exact absurd rfl other
  · rfl

theorem readValue_object (written : ∃ later, skipGap text = '"' :: later) (steps : Nat) :
    readValue (steps + 1) ('{' :: text) =
      (readMembers steps text).map fun read => (.object read.1, read.2) := by
  obtain ⟨later, starts⟩ := written
  rw [← readMembers_skipGap steps text]
  simp only [readValue, skipGap_cons (show isGap '{' = false by decide), starts]
  rfl

/-- A value that does not start with a mark is a number or a word. -/
theorem readValue_scalar (solid : isGap c = false) (unmarked : c ≠ '"' ∧ c ≠ '[' ∧ c ≠ '{') (steps : Nat)
    (text : List Char) : readValue (steps + 1) (c :: text) = readScalar (c :: text) := by
  obtain ⟨noString, noArray, noObject⟩ := unmarked
  simp only [readValue, skipGap_cons solid]
  split
  · rename_i same
    cases same
    exact absurd rfl noString
  · rename_i same
    cases same
    exact absurd rfl noArray
  · rename_i same
    cases same
    exact absurd rfl noObject
  · rfl

/-- After a member, a brace ends the members and a comma goes on with them. -/
theorem readMembers_member {name : String} {value : Json} {before between inside : List Char}
    (gapBefore : IsGaps before) (chars : SpellsChars name.toList body) (gapBetween : IsGaps between)
    (gapInside : IsGaps inside) (read : readValue steps text = some (value, rest)) :
    (∀ after, skipGap rest = '}' :: after →
      readMembers (steps + 1) (before ++ '"' :: (body ++ '"' :: (between ++ ':' :: (inside ++ text)))) =
        some ([(name, value)], after)) ∧
    ∀ after, skipGap rest = ',' :: after →
      readMembers (steps + 1) (before ++ '"' :: (body ++ '"' :: (between ++ ':' :: (inside ++ text)))) =
        (readMembers steps after).map fun read => ((name, value) :: read.1, read.2) := by
  constructor <;> intro after follows
  all_goals simp only [readMembers, skipGap_gaps gapBefore (show isGap '"' = false by decide),
    chars.readString, skipGap_gaps gapBetween (show isGap ':' = false by decide),
    readValue_gaps gapInside, read, follows, String.ofList_toList]

mutual

/-- Whatever writes a value is read as that value, if there is a step for each character. -/
theorem readValue_spells {v : Json} {text rest : List Char} {steps : Nat} (spells : Spells v text)
    (enough : text.length ≤ steps) (stops : Stops rest) :
    readValue steps (text ++ rest) = some (v, rest) := by
  -- A value has a character, so there is a step for it.
  obtain ⟨steps, rfl⟩ : ∃ left, steps = left + 1 := by
    obtain ⟨c, later, rfl, -⟩ := spells.exists_head
    exact ⟨steps - 1, by simp at enough; omega⟩
  cases spells with
  | null => exact readValue_scalar (by decide) (by decide) steps _
  | isTrue => exact readValue_scalar (by decide) (by decide) steps _
  | isFalse => exact readValue_scalar (by decide) (by decide) steps _
  | natural whole =>
    have scalar := readScalar_natural whole stops
    obtain ⟨c, later, rfl⟩ := List.exists_cons_of_ne_nil (Text.ne_nil_of_isWhole whole)
    have digit := Text.isDigit_of_isWhole whole c List.mem_cons_self
    refine (readValue_scalar (isGap_of_isDigit digit) ⟨?_, ?_, ?_⟩ steps _).trans scalar <;>
      · rintro rfl
        simp at digit
  | string chars =>
    simp only [List.cons_append, List.append_assoc, List.nil_append, readValue,
      skipGap_cons (show isGap '"' = false by decide), chars.readString, Option.map_some,
      String.ofList_toList]
  | emptyArray between =>
    simp only [List.cons_append, List.append_assoc, List.nil_append, readValue,
      skipGap_cons (show isGap '[' = false by decide),
      skipGap_gaps between (show isGap ']' = false by decide)]
  | emptyObject between =>
    simp only [List.cons_append, List.append_assoc, List.nil_append, readValue,
      skipGap_cons (show isGap '{' = false by decide),
      skipGap_gaps between (show isGap '}' = false by decide)]
  | array written =>
    simp only [List.cons_append, List.append_assoc, List.nil_append, List.length_cons,
      List.length_append, List.length_nil] at enough ⊢
    rw [readValue_array (written.exists_head _), readItems_spells written (by omega), Option.map_some]
  | object written =>
    simp only [List.cons_append, List.append_assoc, List.nil_append, List.length_cons,
      List.length_append, List.length_nil] at enough ⊢
    rw [readValue_object (written.exists_head _), readMembers_spells written (by omega), Option.map_some]

theorem readItems_spells {items : List Json} {text : List Char} {steps : Nat}
    (written : SpellsItems items text) (enough : text.length < steps) (rest : List Char) :
    readItems steps (text ++ ']' :: rest) = some (items, rest) := by
  obtain ⟨steps, rfl⟩ : ∃ left, steps = left + 1 := ⟨steps - 1, by omega⟩
  cases written with
  | @last item before text after gapBefore spells gapAfter =>
    simp only [List.append_assoc, List.length_append] at enough ⊢
    have stops : Stops (after ++ ']' :: rest) := stops_gaps gapAfter (stops_cons (by decide) rest)
    have read : readValue steps (text ++ (after ++ ']' :: rest)) = some (item, _) :=
      readValue_spells spells (by omega) stops
    simp only [readItems, readValue_gaps gapBefore, read,
      skipGap_gaps gapAfter (show isGap ']' = false by decide)]
  | @more item later before text after others gapBefore spells gapAfter written =>
    simp only [List.append_assoc, List.cons_append, List.length_append, List.length_cons] at enough ⊢
    have stops : Stops (after ++ ',' :: (others ++ ']' :: rest)) :=
      stops_gaps gapAfter (stops_cons (by decide) _)
    have read : readValue steps (text ++ (after ++ ',' :: (others ++ ']' :: rest))) = some (item, _) :=
      readValue_spells spells (by omega) stops
    have readLater : readItems steps (others ++ ']' :: rest) = some (later, rest) :=
      readItems_spells written (by omega) rest
    simp only [readItems, readValue_gaps gapBefore, read,
      skipGap_gaps gapAfter (show isGap ',' = false by decide), readLater, Option.map_some]

theorem readMembers_spells {members : List (String × Json)} {text : List Char} {steps : Nat}
    (written : SpellsMembers members text) (enough : text.length < steps) (rest : List Char) :
    readMembers steps (text ++ '}' :: rest) = some (members, rest) := by
  obtain ⟨steps, rfl⟩ : ∃ left, steps = left + 1 := ⟨steps - 1, by omega⟩
  cases written with
  | @last name value before body between inside text after gapBefore chars gapBetween gapInside spells
      gapAfter =>
    simp only [List.append_assoc, List.cons_append, List.length_append, List.length_cons] at enough ⊢
    have stops : Stops (after ++ '}' :: rest) := stops_gaps gapAfter (stops_cons (by decide) rest)
    have read : readValue steps (text ++ (after ++ '}' :: rest)) = some (value, _) :=
      readValue_spells spells (by omega) stops
    exact (readMembers_member gapBefore chars gapBetween gapInside read).1 rest
      (skipGap_gaps gapAfter (by decide) rest)
  | @more name value later before body between inside text after others gapBefore chars gapBetween
      gapInside spells gapAfter written =>
    simp only [List.append_assoc, List.cons_append, List.length_append, List.length_cons] at enough ⊢
    have stops : Stops (after ++ ',' :: (others ++ '}' :: rest)) :=
      stops_gaps gapAfter (stops_cons (by decide) _)
    have read : readValue steps (text ++ (after ++ ',' :: (others ++ '}' :: rest))) = some (value, _) :=
      readValue_spells spells (by omega) stops
    have readLater : readMembers steps (others ++ '}' :: rest) = some (later, rest) :=
      readMembers_spells written (by omega) rest
    refine ((readMembers_member gapBefore chars gapBetween gapInside read).2 _
      (skipGap_gaps gapAfter (by decide) _)).trans ?_
    rw [readLater, Option.map_some]

end

/-- A text that writes a value, with nothing but gaps around it. -/
def Document (v : Json) (text : String) : Prop :=
  ∃ before inner after, IsGaps before ∧ Spells v inner ∧ IsGaps after ∧
    text.toList = before ++ inner ++ after

/-- Reading a document finds the value that it writes. -/
theorem Document.read?_eq {text : String} (document : Document v text) : read? text = some v := by
  obtain ⟨before, inner, after, gapBefore, spells, gapAfter, shape⟩ := document
  have stops : Stops after := by
    simpa using stops_gaps gapAfter (show Stops [] by simp [Stops])
  have enough : inner.length ≤ text.toList.length + 1 := by
    rw [shape]
    simp only [List.length_append]
    omega
  have read : readValue (text.toList.length + 1) text.toList = some (v, after) := by
    conv => lhs; arg 2; rw [shape]
    rw [List.append_assoc, readValue_gaps gapBefore]
    exact readValue_spells spells enough stops
  have nothing : skipGap after = [] := List.dropWhile_eq_nil_iff.mpr gapAfter
  simp only [read?, read, if_pos nothing]

/-- A document writes one value only. -/
theorem Document.unique {text : String} {w : Json} (document : Document v text)
    (other : Document w text) : v = w :=
  Option.some.inj (document.read?_eq.symm.trans other.read?_eq)

end Json

end Statechart
