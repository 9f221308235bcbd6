import Statechart.Text.Blank
import Statechart.Text.Search

/-! Names as they are written in a diagram. A name is the mark of a start or an end, the mark of a
history, possibly with the state whose history it is, or the plain name of a state. -/
namespace Statechart

/-- What a written name stands for. -/
inductive Name where
  /-- `[*]`, the start or the end of a scope. -/
  | initial
  /-- `[H]` or `[H*]`, after the name of the remembered state if there is one. -/
  | history (owner : Option String) (marker : String)
  /-- Any other name. -/
  | plain (name : String)
deriving DecidableEq, Repr

namespace Name

/-- How starts and ends are written; every state of that kind bears it as its name. -/
def initialMark : String := "[*]"

/-- The owner and the marker of a history: the first bracket and the first closing bracket after it,
if there is an `H` between them. The owner is what precedes, and what follows is dropped. -/
def splitHistory (raw : List Char) : Option (List Char × List Char) :=
  match Text.cut? ['['] raw with
  | none => none
  | some (before, rest) =>
    match Text.cut? [']'] rest with
    | none => none
    | some (inside, _) =>
      if 'H' ∈ inside then some (Text.trim before, '[' :: inside ++ [']']) else none

/-- Reads a name whose surrounding blanks do not count. -/
def ofChars (raw : List Char) : Name :=
  let trimmed := Text.trim raw
  if trimmed = ['[', '*', ']'] then initial
  else
    match splitHistory trimmed with
    | some ([], marker) => history none (String.ofList marker)
    | some (owner, marker) => history (some (String.ofList owner)) (String.ofList marker)
    | none => plain (String.ofList trimmed)

/-- Reads a name whose surrounding blanks do not count. -/
def ofString (raw : String) : Name :=
  ofChars raw.toList

/-- Takes a pair of double quotes off a name. A quote at one end only is part of the name. -/
def unquote (raw : List Char) : List Char :=
  match Text.trim raw with
  | '"' :: inner => if inner.getLast? = some '"' then inner.dropLast else '"' :: inner
  | bare => bare

end Name

end Statechart
