import Statechart.Name

/-! The declaration lines of a diagram, once the word `state` has been taken off. -/
namespace Statechart

/-- What a line of a diagram does. -/
inductive Line where
  /-- `state Name {` enters a composite state, for which it may introduce a nickname. -/
  | composite (name : String) (nickname : Option String)
  /-- `state "Long Name" as N` declares a state and a nickname for it. -/
  | aliased (name nickname : String) (stereotype : Option String)
  /-- `state Name <<fork>>` declares a state with a stereotype. -/
  | stereotyped (name stereotype : String)
  /-- `state Name : text` declares a state, with or without a text for it. -/
  | simple (name : String) (content : Option String)
  /-- A closing brace leaves the innermost composite state. -/
  | close
  /-- `Source --> Target : event` is a transition. -/
  | transition (source target : String) (event : Option String)
  /-- `Name : text` is a text for a state that must be known already. -/
  | content (name text : String)
  /-- Comments, directives, and everything else that says nothing about states. -/
  | ignored
deriving DecidableEq, Repr

namespace Line

/-- The stereotype in a text that starts with it: what stands between `<<` and the first `>`, which
must be doubled. -/
def stereotype? (text : List Char) : Option (List Char) :=
  match text with
  | '<' :: '<' :: rest =>
    let (label, closing) := rest.span (· != '>')
    match closing with
    | '>' :: '>' :: _ => some label
    | _ => none
  | _ => none

/-- Characters that end a nickname. -/
def endsNickname (c : Char) : Bool :=
  Text.isBlank c || c == '<' || c == '{' || c == ':'

/-- The nickname and the stereotype in a text that follows a name: the word `as` between blanks, the
nickname, and possibly a stereotype after it. -/
def nickname? (afterName : List Char) : Option (List Char × Option (List Char)) :=
  match afterName with
  | [] => none
  | first :: _ =>
    if Text.isBlank first then
      match Text.trimStart afterName with
      | 'a' :: 's' :: blank :: rest =>
        if Text.isBlank blank then
          let (nickname, after) := (Text.trimStart rest).span (fun c => !endsNickname c)
          if nickname = [] then none else some (nickname, stereotype? (Text.trimStart after))
        else none
      | _ => none
    else none

/-- The name in double quotes that a text starts with, and what follows it. -/
def quoted? (text : List Char) : Option (List Char × List Char) :=
  match text with
  | '"' :: rest => Text.cut? ['"'] rest
  | _ => none

/-- The parts of an aliased name at the start of a text: the name, which is either quoted or a single
word, the nickname, and the stereotype. What follows them does not count. -/
def aliased? (text : List Char) : Option (List Char × List Char × Option (List Char)) :=
  let asQuoted := (quoted? text).bind fun (name, after) =>
    (nickname? after).map fun parts => (name, parts)
  match asQuoted with
  | some parts => some parts
  | none =>
    match Text.word text with
    | ([], _) => none
    | (name, after) => (nickname? after).map fun parts => (name, parts)

/-- The name and the stereotype of a text in which a stereotype follows a name on the same line. -/
def stereotyped? (text : List Char) : Option (List Char × List Char) :=
  match Text.seek (fun rest => stereotype? (Text.trimStart rest)) text with
  | some (name, label) => if '\n' ∈ name then none else some (name, label)
  | none => none

/-- A declaration that opens a brace, from what precedes the brace. A stereotype there is dropped. -/
def ofHead (head : List Char) : Line :=
  let head :=
    match Text.cut? ['<', '<'] head with
    | some (before, _) => Text.trim before
    | none => head
  if head = [] then ignored
  else
    match aliased? head with
    | some (name, nickname, _) => composite (String.ofList name) (some (String.ofList nickname))
    | none => composite (String.ofList (Name.unquote head)) none

/-- A declaration without brace, nickname and stereotype. -/
def ofSimple (text : List Char) : Line :=
  let (name, remark) :=
    match Text.cut? [':'] text with
    | some (name, remark) => (Name.unquote name, some (String.ofList (Text.trim remark)))
    | none => (Name.unquote text, none)
  if name = [] then ignored else simple (String.ofList name) remark

/-- A declaration without brace and nickname. -/
def ofStereotyped (text : List Char) : Line :=
  match stereotyped? text with
  | some (name, label) =>
    match Name.unquote name with
    | [] => ignored
    | name => stereotyped (String.ofList name) (String.ofList (Text.trim label))
  | none => ofSimple text

/-- A declaration without brace. -/
def ofFlat (text : List Char) : Line :=
  if Text.occurs " as ".toList text then
    match aliased? text with
    | some (name, nickname, label) =>
      aliased (String.ofList name) (String.ofList nickname)
        (label.map fun label => String.ofList (Text.trim label))
    | none => ofStereotyped text
  else ofStereotyped text

/-- What the text after the word `state` declares. -/
def ofDeclaration (text : List Char) : Line :=
  if text = [] then ignored
  else
    match Text.cut? ['{'] text with
    | some (head, _) => ofHead (Text.trim head)
    | none => ofFlat text

end Line

end Statechart
