import Statechart.Text.Decimal
import Statechart.Text.Search

/-! Messages that may end in the place of a fault, as in `unexpected end at line 3 column 7`. Read
from a text, such a message has its place as numbers, so that the same place is always written in the
same way; line zero stands for no place at all and is not written. -/
namespace Statechart.Text

/-- A message and the place it speaks of. -/
structure Located where
  /-- What is to be said. -/
  message : List Char
  /-- The line, or zero if no place is known. -/
  line : Nat
  /-- The column. -/
  column : Nat
deriving DecidableEq, Repr

/-- The texts before and after the last occurrence of `mark`. -/
def cutLast? (mark : List Char) (text : List Char) : Option (List Char × List Char) :=
  (cut? mark.reverse text.reverse).map fun (after, before) => (before.reverse, after.reverse)

/-- A number of at most 64 bits that a text consists of. -/
def small? (digits : List Char) : Option Nat :=
  if isDigits digits ∧ ofDigits digits < UInt64.size then some (ofDigits digits) else none

/-- The line and the column that a text consists of. -/
def place? (text : List Char) : Option (Nat × Nat) :=
  match cut? " column ".toList text with
  | none => none
  | some (line, column) => do return (← small? line, ← small? column)

namespace Located

/-- Takes a message apart. Only the last mention of a line counts, and only if a line, a column and
nothing else follow it. -/
def ofText (text : List Char) : Located :=
  match cutLast? " at line ".toList text with
  | none => { message := text, line := 0, column := 0 }
  | some (message, place) =>
    match place? place with
    | some (line, column) => { message, line, column }
    | none => { message := text, line := 0, column := 0 }

/-- A message with its place. -/
def text (l : Located) : List Char :=
  if l.line = 0 then l.message
  else
    l.message ++ " at line ".toList ++ Nat.toDigits 10 l.line ++ " column ".toList ++
      Nat.toDigits 10 l.column

end Located

end Statechart.Text
