import Statechart.Json.Value

/-! JSON as text, laid out over lines: each item of an array and each member of an object has a line
of its own, indented by two spaces for each level. Empty arrays and objects stay on one line.
Strings keep all characters but the quotation mark, the backslash and the control characters below
the space. -/
namespace Statechart.Json

/-- A character of a string as it is written between the quotation marks. -/
def escape (c : Char) : List Char :=
  if c = '"' then ['\\', '"']
  else if c = '\\' then ['\\', '\\']
  else if c = '\x08' then ['\\', 'b']
  else if c = '\x0c' then ['\\', 'f']
  else if c = '\n' then ['\\', 'n']
  else if c = '\r' then ['\\', 'r']
  else if c = '\t' then ['\\', 't']
  else if c.toNat < 0x20 then
    ['\\', 'u', '0', '0', Nat.digitChar (c.toNat / 16), Nat.digitChar (c.toNat % 16)]
  else [c]

/-- A string between quotation marks. -/
def quote (text : String) : List Char :=
  '"' :: text.toList.flatMap escape ++ ['"']

/-- The start of a new line at some level. -/
def newLine (level : Nat) : List Char :=
  '\n' :: List.replicate (2 * level) ' '

mutual

/-- A value that starts on a line of some level. -/
def print (level : Nat) : Json → List Char
  | null => "null".toList
  | bool true => "true".toList
  | bool false => "false".toList
  | natural value => Nat.toDigits 10 value
  | number literal => literal.toList
  | string value => quote value
  | array [] => "[]".toList
  | array (item :: later) =>
    '[' :: newLine (level + 1) ++ print (level + 1) item ++ printItems (level + 1) later ++
      newLine level ++ [']']
  | object [] => ['{', '}']
  | object ((name, value) :: later) =>
    '{' :: newLine (level + 1) ++ quote name ++ [':', ' '] ++ print (level + 1) value ++
      printMembers (level + 1) later ++ newLine level ++ ['}']

/-- The items after the first one. -/
def printItems (level : Nat) : List Json → List Char
  | [] => []
  | item :: later => ',' :: newLine level ++ print level item ++ printItems level later

/-- The members after the first one. -/
def printMembers (level : Nat) : List (String × Json) → List Char
  | [] => []
  | (name, value) :: later =>
    ',' :: newLine level ++ quote name ++ [':', ' '] ++ print level value ++
      printMembers level later

end

/-- A value as text. -/
def pretty (value : Json) : String :=
  String.ofList (print 0 value)

end Statechart.Json
