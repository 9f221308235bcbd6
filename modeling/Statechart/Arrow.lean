import Statechart.Text.Search

/-! Arrows. An arrow is a run of dashes that ends in `>`; one of the words `left`, `right`, `up` and
`down` may stand among the dashes, after at least one of them. -/
namespace Statechart.Arrow

/-- The words that give an arrow a direction in the drawing. -/
def directions : List (List Char) :=
  ["left".toList, "right".toList, "up".toList, "down".toList]

/-- The rest of a text that starts with any number of dashes and `>`. -/
def tail? (text : List Char) : Option (List Char) :=
  match text.dropWhile (· == '-') with
  | '>' :: rest => some rest
  | _ => none

/-- The rest of a text that starts with an arrow. -/
def strip? : List Char → Option (List Char)
  | '-' :: dashed =>
    let body := dashed.dropWhile (· == '-')
    match directions.findSome? (·.isPrefixOf? body) with
    | some rest => tail? rest
    | none => tail? body
  | _ => none

/-- The texts before and after the leftmost arrow. -/
def split? (text : List Char) : Option (List Char × List Char) :=
  Text.seek strip? text

end Statechart.Arrow
