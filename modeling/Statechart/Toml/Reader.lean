import Statechart.Toml.Number
import Statechart.Toml.Quotation
import Statechart.Toml.Value

/-! Reading TOML text. A text is a sequence of statements, each on a line of its own: a header says to
which table the entries after it belong, and an entry puts a value under a key. A text with a fault
anywhere has no meaning at all. -/
namespace Statechart.Toml

/-- The text after blanks within the line. -/
def skipSpace (text : List Char) : List Char :=
  text.dropWhile isSpace

/-- The text after a comment, if it starts with one. -/
def skipComment? (text : List Char) : Option (List Char) :=
  match text with
  | '#' :: rest =>
    let (body, rest) := rest.span fun c => c != '\n' && c != '\r'
    if body.all isVisible then some rest else none
  | _ => some text

/-- The text after blanks, comments and line ends. -/
def skipLines? : Nat → List Char → Option (List Char)
  | 0, _ => none
  | steps + 1, text =>
    match skipComment? (skipSpace text) with
    | none => none
    | some rest =>
      match newline? rest with
      | some rest => skipLines? steps rest
      | none => some rest

/-- The text of the next line, if nothing but a comment remains of this one. -/
def endLine? (text : List Char) : Option (List Char) :=
  match skipComment? (skipSpace text) with
  | none => none
  | some [] => some []
  | some rest => newline? rest

/-- One part of a key: a word, or a string on one line. -/
def keyPart? (text : List Char) : Option (String × List Char) :=
  match text with
  | '"' :: _ | '\'' :: _ => (shortString? text).map fun (part, rest) => (String.ofList part, rest)
  | _ =>
    let (part, rest) := text.span fun c => c.isAlphanum || c == '_' || c == '-'
    if part = [] then none else some (String.ofList part, rest)

/-- The parts of a key, with dots between them and blanks around the dots. -/
def keyParts? : Nat → List Char → Option (List String × List Char)
  | 0, _ => none
  | steps + 1, text =>
    match keyPart? (skipSpace text) with
    | none => none
    | some (part, rest) =>
      match skipSpace rest with
      | '.' :: rest => (keyParts? steps rest).map fun (later, rest) => (part :: later, rest)
      | rest => some ([part], rest)

/-- The largest number of parts of a key, and of arrays and tables around a value. -/
def deepest : Nat := 80

/-- A key. -/
def key? (steps : Nat) (text : List Char) : Option (List String × List Char) :=
  match keyParts? steps text with
  | some (key, rest) => if key.length ≤ deepest then some (key, rest) else none
  | none => none

mutual

/-- The value at the start of a text, in which arrays and tables may be nested so many levels deep. -/
def value? : Nat → Nat → List Char → Option (Toml × List Char)
  | 0, _, _ => none
  | steps + 1, levels, text =>
    match skipSpace text, levels with
    | '[' :: _, 0 | '{' :: _, 0 => none
    | '[' :: rest, levels + 1 =>
      (items? steps levels rest).map fun (items, rest) => (array items, rest)
    | '{' :: rest, levels + 1 =>
      (inlineEntries? steps levels [] rest).map fun (entries, rest) => (table .inline entries, rest)
    | '"' :: rest, _ =>
      (string? ('"' :: rest)).map fun (value, rest) => (string (String.ofList value), rest)
    | '\'' :: rest, _ =>
      (string? ('\'' :: rest)).map fun (value, rest) => (string (String.ofList value), rest)
    | rest, _ => takeBare? rest

/-- The items of an array up to its closing bracket. They may extend over lines, and the last one may
have a comma after it. -/
def items? : Nat → Nat → List Char → Option (List Toml × List Char)
  | 0, _, _ => none
  | steps + 1, levels, text =>
    match skipLines? (steps + 1) text with
    | none => none
    | some (']' :: rest) => some ([], rest)
    | some rest =>
      match value? steps levels rest with
      | none => none
      | some (item, rest) =>
        match skipLines? (steps + 1) rest with
        | some (']' :: rest) => some ([item], rest)
        | some (',' :: rest) =>
          (items? steps levels rest).map fun (later, rest) => (item :: later, rest)
        | _ => none

/-- The entries of a table up to its closing brace, after those that were read. They may extend over
lines, which may end at either side of a key or of a value, and the last one may have a comma after
it. -/
def inlineEntries? : Nat → Nat → Entries → List Char → Option (Entries × List Char)
  | 0, _, _, _ => none
  | steps + 1, levels, entries, text =>
    match skipLines? (steps + 1) text with
    | none => none
    | some ('}' :: rest) => some (entries, rest)
    | some rest =>
      match key? (steps + 1) rest with
      | none => none
      | some (key, rest) =>
        match skipLines? (steps + 1) rest with
        | some ('=' :: rest) =>
          match (skipLines? (steps + 1) rest).bind (value? steps levels) with
          | none => none
          | some (value, rest) =>
            match entries.assign? key value, skipLines? (steps + 1) rest with
            | some entries, some ('}' :: rest) => some (entries, rest)
            | some entries, some (',' :: rest) => inlineEntries? steps levels entries rest
            | _, _ => none
        | _ => none

end

/-- A text while it is being read: the table that entries belong to, and all entries. -/
structure Document where
  /-- The header in force. -/
  header : List String
  /-- The entries of the whole text. -/
  entries : Entries

namespace Document

/-- Nothing has been read. -/
def empty : Document :=
  { header := [], entries := [] }

/-- Reads a header: it creates a table or another item of an array of tables. -/
def open? (d : Document) (path : List String) (create : String → Entries → Option Entries) :
    Option Document :=
  match path.getLast? with
  | none => none
  | some last =>
    (within (create last) path.dropLast d.entries).map fun entries => { header := path, entries }

/-- Reads an entry. -/
def assign? (d : Document) (key : List String) (value : Toml) : Option Document :=
  (within (·.assign? key value) d.header d.entries).map fun entries => { d with entries }

/-- Reads one statement, and answers what follows on the line. -/
def statement? (steps : Nat) (d : Document) (text : List Char) : Option (Document × List Char) :=
  match text with
  | '[' :: '[' :: rest =>
    match key? steps rest with
    | some (path, ']' :: ']' :: rest) => (d.open? path addItem).map fun d => (d, rest)
    | _ => none
  | '[' :: rest =>
    match key? steps rest with
    | some (path, ']' :: rest) => (d.open? path declare).map fun d => (d, rest)
    | _ => none
  | _ =>
    match key? steps text with
    | some (key, '=' :: rest) =>
      match value? steps deepest rest with
      | none => none
      | some (value, rest) => (d.assign? key value).map fun d => (d, rest)
    | _ => none

/-- Reads the statements of a text. -/
def statements? : Nat → Document → List Char → Option Document
  | 0, _, _ => none
  | steps + 1, d, text =>
    match skipLines? (steps + 1) text with
    | none => none
    | some [] => some d
    | some rest =>
      match statement? (steps + 1) d rest with
      | none => none
      | some (d, rest) => (endLine? rest).bind (statements? steps d)

end Document

/-- The entries that a text writes. A byte order mark before it does not count. -/
def read? (text : String) : Option Entries :=
  let chars :=
    match text.toList with
    | '\uFEFF' :: rest => rest
    | chars => chars
  (Document.empty.statements? (chars.length + 1) chars).map (·.entries)

end Statechart.Toml
