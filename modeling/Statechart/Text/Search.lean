/-! The first place in a text at which something is found. What counts as found is given by a
function that looks at the start of a text, so one search serves for a character, for a fixed
sequence of characters and for a small language such as that of the arrows. -/
namespace Statechart.Text

/-- Looks for the first position at which `found` recognises the start of the remaining text.
Answers the text before that position and what was recognised there. -/
def seek (found : List Char → Option α) : List Char → Option (List Char × α)
  | [] => (found []).map fun hit => ([], hit)
  | c :: rest =>
    match found (c :: rest) with
    | some hit => some ([], hit)
    | none => (seek found rest).map fun (before, hit) => (c :: before, hit)

/-- The texts before and after the first occurrence of `mark`. -/
def cut? (mark : List Char) (text : List Char) : Option (List Char × List Char) :=
  seek mark.isPrefixOf? text

/-- Whether `mark` occurs in the text. -/
def occurs (mark : List Char) (text : List Char) : Bool :=
  (cut? mark text).isSome

end Statechart.Text
