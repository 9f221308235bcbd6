/-! Numbers written with decimal digits. -/
namespace Statechart.Text

/-- At least one digit, and nothing else. -/
def isDigits (text : List Char) : Bool :=
  !text.isEmpty && text.all Char.isDigit

/-- The number that digits write. -/
def ofDigits (digits : List Char) : Nat :=
  digits.foldl (fun value digit => value * 10 + (digit.toNat - '0'.toNat)) 0

/-- Digits without a needless zero before them. -/
def isWhole : List Char → Bool
  | [] => false
  | '0' :: rest => rest.isEmpty
  | digits => digits.all Char.isDigit

end Statechart.Text
