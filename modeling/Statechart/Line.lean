import Statechart.Arrow
import Statechart.Line.Declaration

/-! The lines of a diagram and what each of them does. The checks run in a fixed order, because
several marks can stand on one line: a declaration may contain a colon, the event of a transition may
contain a brace. The first check that succeeds decides. -/
namespace Statechart.Line

/-- Lines that start with an apostrophe, and lines between `/'` and `'/`. -/
def isComment (text : List Char) : Bool :=
  ['\''].isPrefixOf text || (['/', '\''].isPrefixOf text && ['\'', '/'].isSuffixOf text)

/-- The two ends of an arrow. The text after the target's colon is the event. Without a source or
without a target there is no transition. -/
def ofArrow (left right : List Char) : Line :=
  let (target, event) :=
    match Text.cut? [':'] right with
    | some (target, event) => (Text.trim target, Text.trim event)
    | none => (Text.trim right, [])
  let source := Text.trim left
  if source = [] ∨ target = [] then ignored
  else
    transition (String.ofList source) (String.ofList target)
      (if event = [] then none else some (String.ofList event))

/-- A line that is neither a declaration nor the end of a scope nor a transition: text for a state
whose name stands before a colon, or nothing. -/
def ofAnnotation (text : List Char) : Line :=
  match Text.cut? [':'] text with
  | none => ignored
  | some (before, after) =>
    match Text.trim before with
    | [] => ignored
    | name => content (String.ofList name) (String.ofList (Text.trim after))

/-- What a line does that has no blanks at its ends. -/
def ofTrimmed (text : List Char) : Line :=
  if text = [] ∨ isComment text then ignored
  else
    match "state ".toList.isPrefixOf? text with
    | some declared => ofDeclaration (Text.trim declared)
    | none =>
      if ['}'].isPrefixOf text then close
      else
        match Arrow.split? text with
        | some (left, right) => ofArrow left right
        | none => ofAnnotation text

/-- What a line does. Blanks at its ends do not count. -/
def classify (line : String) : Line :=
  ofTrimmed (Text.trim line.toList)

end Statechart.Line
