/-! The lines of a text. A line ends at a line feed, and a carriage return just before the line feed
belongs to the ending. Text after the last line feed is a line of its own, and there it keeps a
carriage return at its end; an empty rest is no line. -/
namespace Statechart.Text

/-- The lines of a text, without their endings. -/
def lines : List Char → List (List Char)
  | [] => []
  | '\n' :: rest => [] :: lines rest
  | '\r' :: '\n' :: rest => [] :: lines rest
  | c :: rest =>
    match lines rest with
    | [] => [[c]]
    | line :: later => (c :: line) :: later

end Statechart.Text
