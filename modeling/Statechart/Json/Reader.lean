import Statechart.Json.Value
import Statechart.Text.Decimal
import Statechart.Text.Hex

/-! Reading JSON text. Blanks may stand between all parts of a value; there are four of them. Every
part answers the text that follows it. -/
namespace Statechart.Json

/-- The characters that may stand between the parts of a value. -/
def isGap (c : Char) : Bool :=
  c == ' ' || c == '\t' || c == '\n' || c == '\r'

/-- The text from its first character on that is no gap. -/
def skipGap (text : List Char) : List Char :=
  text.dropWhile isGap

/-- The character that two halves of a surrogate pair stand for. -/
def ofSurrogates (high low : Nat) : Char :=
  Char.ofNat (0x10000 + (high - 0xD800) * 0x400 + (low - 0xDC00))

/-- The character whose number follows `\u`. A character beyond the first 65536 takes two such
numbers; half a pair is no character. -/
def numbered? (text : List Char) : Option (Char × List Char) :=
  match Text.takeHex? 4 text with
  | none => none
  | some (first, rest) =>
    if first < 0xD800 ∨ 0xE000 ≤ first then some (Char.ofNat first, rest)
    else if 0xDC00 ≤ first then none
    else
      match rest with
      | '\\' :: 'u' :: rest =>
        match Text.takeHex? 4 rest with
        | some (second, rest) =>
          if 0xDC00 ≤ second ∧ second < 0xE000 then some (ofSurrogates first second, rest) else none
        | none => none
      | _ => none

/-- The characters written with a backslash and one letter or mark. -/
def marks : List (Char × Char) :=
  [('"', '"'), ('\\', '\\'), ('/', '/'), ('b', '\x08'), ('f', '\x0c'), ('n', '\n'), ('r', '\r'),
    ('t', '\t')]

/-- The character that is written with a backslash and the start of a text. -/
def escaped? : List Char → Option (Char × List Char)
  | [] => none
  | 'u' :: rest => numbered? rest
  | mark :: rest => (marks.lookup mark).map fun c => (c, rest)

theorem length_of_numbered? {text rest : List Char} (read : numbered? text = some (c, rest)) :
    rest.length < text.length := by
  unfold numbered? at read
  split at read
  · simp at read
  · rename_i first after firstRead
    have shorter := Text.length_of_takeHex? firstRead
    split at read
    · simp only [Option.some.injEq, Prod.mk.injEq] at read
      simp only [← read.2]
      omega
    · split at read
      · simp at read
      · split at read
        · split at read
          · rename_i secondRead
            have shorterStill := Text.length_of_takeHex? secondRead
            split at read
            · simp only [Option.some.injEq, Prod.mk.injEq] at read
              simp only [← read.2, List.length_cons] at *
              omega
            · simp at read
          · simp at read
        · simp at read

theorem length_of_escaped? {text rest : List Char} (read : escaped? text = some (c, rest)) :
    rest.length < text.length := by
  unfold escaped? at read
  split at read
  · simp at read
  · have shorter := length_of_numbered? read
    simp only [List.length_cons]
    omega
  · simp only [Option.map_eq_some_iff, Prod.mk.injEq] at read
    obtain ⟨_, -, -, rfl⟩ := read
    simp only [List.length_cons]
    omega

/-- The characters of a string up to its closing quotation mark. -/
def readString (text : List Char) : Option (List Char × List Char) :=
  match text with
  | [] => none
  | c :: rest =>
    if c = '"' then some ([], rest)
    else if c = '\\' then
      match read : escaped? rest with
      | none => none
      | some (escaped, rest) =>
        have := length_of_escaped? read
        (readString rest).map fun (later, rest) => (escaped :: later, rest)
    else if c.toNat < 0x20 then none
    else (readString rest).map fun (later, rest) => (c :: later, rest)
termination_by text.length

/-- An exponent after its letter: at least one digit, with or without a sign. -/
def isExponent : List Char → Bool
  | '+' :: digits | '-' :: digits => Text.isDigits digits
  | digits => Text.isDigits digits

/-- What may follow the whole part of a number: a fraction and an exponent, if anything. -/
def isFraction (text : List Char) : Bool :=
  let exponent (text : List Char) : Bool :=
    match text with
    | [] => true
    | c :: rest => (c == 'e' || c == 'E') && isExponent rest
  match text with
  | '.' :: rest =>
    let (digits, rest) := rest.span Char.isDigit
    !digits.isEmpty && exponent rest
  | _ => exponent text

/-- The characters that numbers are written with. -/
def isNumeric (c : Char) : Bool :=
  c.isDigit || c == '+' || c == '-' || c == '.' || c == 'e' || c == 'E'

/-- The number written by a whole run of such characters. -/
def number? (literal : List Char) : Option Json :=
  if Text.isWhole literal then some (natural (Text.ofDigits literal))
  else
    let unsigned :=
      match literal with
      | '-' :: rest => rest
      | _ => literal
    let (whole, rest) := unsigned.span Char.isDigit
    if Text.isWhole whole && isFraction rest then some (number (String.ofList literal)) else none

/-- A number, or one of the words that are values. -/
def readScalar (text : List Char) : Option (Json × List Char) :=
  match "null".toList.isPrefixOf? text with
  | some rest => some (null, rest)
  | none =>
    match "true".toList.isPrefixOf? text with
    | some rest => some (bool true, rest)
    | none =>
      match "false".toList.isPrefixOf? text with
      | some rest => some (bool false, rest)
      | none =>
        let (literal, rest) := text.span isNumeric
        (number? literal).map fun value => (value, rest)

mutual

/-- A value at the start of a text. Nested values use up the given number of steps, of which one for
each character is enough. -/
def readValue : Nat → List Char → Option (Json × List Char)
  | 0, _ => none
  | steps + 1, text =>
    match skipGap text with
    | '"' :: rest => (readString rest).map fun (value, rest) => (string (String.ofList value), rest)
    | '[' :: rest =>
      match skipGap rest with
      | ']' :: rest => some (array [], rest)
      | rest => (readItems steps rest).map fun (items, rest) => (array items, rest)
    | '{' :: rest =>
      match skipGap rest with
      | '}' :: rest => some (object [], rest)
      | rest => (readMembers steps rest).map fun (members, rest) => (object members, rest)
    | rest => readScalar rest

/-- The items of an array up to its closing bracket. -/
def readItems : Nat → List Char → Option (List Json × List Char)
  | 0, _ => none
  | steps + 1, text =>
    match readValue steps text with
    | none => none
    | some (item, rest) =>
      match skipGap rest with
      | ']' :: rest => some ([item], rest)
      | ',' :: rest => (readItems steps rest).map fun (later, rest) => (item :: later, rest)
      | _ => none

/-- The members of an object up to its closing brace. -/
def readMembers : Nat → List Char → Option (List (String × Json) × List Char)
  | 0, _ => none
  | steps + 1, text =>
    match skipGap text with
    | '"' :: rest =>
      match readString rest with
      | none => none
      | some (name, rest) =>
        match skipGap rest with
        | ':' :: rest =>
          match readValue steps rest with
          | none => none
          | some (value, rest) =>
            let member := (String.ofList name, value)
            match skipGap rest with
            | '}' :: rest => some ([member], rest)
            | ',' :: rest => (readMembers steps rest).map fun (later, rest) => (member :: later, rest)
            | _ => none
        | _ => none
    | _ => none

end

/-- The value that a whole text writes. -/
def read? (text : String) : Option Json :=
  let chars := text.toList
  match readValue (chars.length + 1) chars with
  | some (value, rest) => if skipGap rest = [] then some value else none
  | none => none

end Statechart.Json
