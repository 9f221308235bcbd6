import Statechart.Text.Hex

/-! TOML strings. Double quotation marks allow characters to be written with a backslash, single ones
do not. Three marks of either kind enclose a string that may extend over lines; a line end just after
the opening marks does not count. Every function answers the text that follows. -/
namespace Statechart.Toml

/-- The characters that strings and comments may hold within a line: no controls but the tab. -/
def isVisible (c : Char) : Bool :=
  c == '\t' || (0x20 ≤ c.toNat && c.toNat != 0x7F)

/-- The text after a line end. -/
def newline? : List Char → Option (List Char)
  | '\n' :: rest => some rest
  | '\r' :: '\n' :: rest => some rest
  | _ => none

/-- The blanks within a line. -/
def isSpace (c : Char) : Bool :=
  c == ' ' || c == '\t'

/-- The character with some number, if there is one: halves of surrogate pairs are none. -/
def scalar? (code : Nat) : Option Char :=
  if code < 0xD800 ∨ (0xE000 ≤ code ∧ code < 0x110000) then some (Char.ofNat code) else none

/-- The characters written with a backslash and one letter or mark. -/
def marks : List (Char × Char) :=
  [('"', '"'), ('\\', '\\'), ('b', '\x08'), ('e', '\x1b'), ('f', '\x0c'), ('n', '\n'), ('r', '\r'),
    ('t', '\t')]

/-- The character whose number a text starts with, in so many hexadecimal digits. -/
def numbered? (digits : Nat) (text : List Char) : Option (Char × List Char) :=
  (Text.takeHex? digits text).bind fun (code, rest) => (scalar? code).map fun c => (c, rest)

/-- The character that is written with a backslash and the start of a text. -/
def escaped? : List Char → Option (Char × List Char)
  | [] => none
  | 'x' :: rest => numbered? 2 rest
  | 'u' :: rest => numbered? 4 rest
  | 'U' :: rest => numbered? 8 rest
  | mark :: rest => (marks.lookup mark).map fun c => (c, rest)

/-- A string up to its closing double quotation mark. As many steps as there are characters are
enough. -/
def basic? : Nat → List Char → Option (List Char × List Char)
  | 0, _ => none
  | _ + 1, [] => none
  | steps + 1, c :: rest =>
    if c = '"' then some ([], rest)
    else
      let next := if c = '\\' then escaped? rest else if isVisible c then some (c, rest) else none
      match next with
      | none => none
      | some (c, rest) => (basic? steps rest).map fun (later, rest) => (c :: later, rest)

/-- A string up to its closing single quotation mark. -/
def literal? (text : List Char) : Option (List Char × List Char) :=
  let (body, rest) := text.span (· != '\'')
  match rest with
  | _ :: rest => if body.all isVisible then some (body, rest) else none
  | [] => none

/-- The marks that end a string over several lines. Up to two marks before the last three belong to
the string. -/
def closing? (mark : Char) (text : List Char) : Option (List Char × List Char) :=
  match [mark, mark, mark].isPrefixOf? text with
  | none => none
  | some rest =>
    let extra := (rest.take 2).takeWhile (· == mark)
    some (extra, rest.drop extra.length)

/-- The text from its first character on that is neither a blank nor a line end. -/
def skipBreaks : Nat → List Char → List Char
  | 0, text => text
  | steps + 1, text =>
    match newline? (text.dropWhile isSpace) with
    | some rest => skipBreaks steps rest
    | none => text.dropWhile isSpace

/-- Whether a text starts with a character that a string over several lines may hold as it is: line
ends are kept in the way they are written. -/
def startsPlain (text : List Char) : Bool :=
  (text.head?.map isVisible).getD false || (newline? text).isSome

/-- The rest of a string over several lines between double quotation marks. A backslash at the end of
a line joins it to the next text that is not blank. -/
def basicLines? : Nat → List Char → Option (List Char × List Char)
  | 0, _ => none
  | steps + 1, text =>
    match closing? '"' text with
    | some ending => some ending
    | none =>
      let join (c : Char) (rest : List Char) : Option (List Char × List Char) :=
        (basicLines? steps rest).map fun (later, rest) => (c :: later, rest)
      match text with
      | [] => none
      | '\\' :: rest =>
        match newline? (rest.dropWhile isSpace) with
        | some later => basicLines? steps (skipBreaks steps later)
        | none => (escaped? rest).bind fun (c, rest) => join c rest
      | c :: rest => if startsPlain text then join c rest else none

/-- The rest of a string over several lines between single quotation marks. -/
def literalLines? : Nat → List Char → Option (List Char × List Char)
  | 0, _ => none
  | steps + 1, text =>
    match closing? '\'' text with
    | some ending => some ending
    | none =>
      match text with
      | [] => none
      | c :: rest =>
        if startsPlain text then
          (literalLines? steps rest).map fun (later, rest) => (c :: later, rest)
        else none

/-- The string that a text starts with, on one line. -/
def shortString? (text : List Char) : Option (List Char × List Char) :=
  match text with
  | '"' :: rest => basic? text.length rest
  | '\'' :: rest => literal? rest
  | _ => none

/-- The string that a text starts with, in any notation. -/
def string? (text : List Char) : Option (List Char × List Char) :=
  let steps := text.length + 1
  let body (rest : List Char) : List Char := (newline? rest).getD rest
  match text with
  | '"' :: '"' :: '"' :: rest => basicLines? steps (body rest)
  | '\'' :: '\'' :: '\'' :: rest => literalLines? steps (body rest)
  | _ => shortString? text

end Statechart.Toml
