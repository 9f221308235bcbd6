/-! White space as diagrams see it: the characters with the Unicode property White_Space, which
includes line ends and the no-break spaces but not the zero-width ones. Trimming removes a run of
them at either end of a text and touches nothing inside it. -/
namespace Statechart.Text

/-- The characters with the Unicode property White_Space. -/
def isBlank (c : Char) : Bool :=
  let code := c.toNat
  (0x9 ≤ code && code ≤ 0xD) || code == 0x20 || code == 0x85 || code == 0xA0 || code == 0x1680 ||
    (0x2000 ≤ code && code ≤ 0x200A) || code == 0x2028 || code == 0x2029 || code == 0x202F ||
    code == 0x205F || code == 0x3000

/-- The text without the blanks it starts with. -/
def trimStart (text : List Char) : List Char :=
  text.dropWhile isBlank

/-- The text without the blanks it ends with. -/
def trimEnd (text : List Char) : List Char :=
  (text.reverse.dropWhile isBlank).reverse

/-- The text without blanks at either end. -/
def trim (text : List Char) : List Char :=
  trimEnd (trimStart text)

/-- The first word of a text and what follows it: a word is a longest run without blanks. -/
def word (text : List Char) : List Char × List Char :=
  text.span (fun c => !isBlank c)

end Statechart.Text
