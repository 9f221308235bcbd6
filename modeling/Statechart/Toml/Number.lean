import Statechart.Text.Decimal
import Statechart.Text.Hex
import Statechart.Toml.Value

/-! TOML values that are written without quotation marks and brackets: numbers, truth values, dates
and times. -/
namespace Statechart.Toml

/-- The digits of a number, in which single underscores may stand between digits. -/
def ungroup? (isDigit : Char → Bool) : List Char → Option (List Char)
  | [] => none
  | [c] => if isDigit c then some [c] else none
  | c :: '_' :: rest => if isDigit c then (ungroup? isDigit rest).map (c :: ·) else none
  | c :: rest => if isDigit c then (ungroup? isDigit rest).map (c :: ·) else none

/-- The digits of a decimal number without a needless zero before them. -/
def whole? (text : List Char) : Option (List Char) :=
  match ungroup? Char.isDigit text with
  | some digits => if Text.isWhole digits then some digits else none
  | none => none

/-- Whether a number is negative, and what follows its sign. -/
def sign (text : List Char) : Bool × List Char :=
  match text with
  | '-' :: rest => (true, rest)
  | '+' :: rest => (false, rest)
  | _ => (false, text)

/-- An integer, if 128 bits can hold it. -/
def ofInteger (value : Int) : Toml :=
  if -(Int.pow 2 127) ≤ value ∧ value < Int.pow 2 128 then integer value else unusable

/-- A number in another base than ten: digits and a prefix that names the base. -/
def based? (text : List Char) : Option Toml :=
  let digits (isDigit : Char → Bool) (base : Nat) (rest : List Char) : Option Toml :=
    if rest = [] then some unusable
    else
      (ungroup? isDigit rest).map fun digits =>
        ofInteger (digits.foldl (fun value c => value * base + (Text.hexValue? c).getD 0) 0 : Nat)
  match text with
  | '0' :: 'x' :: rest => digits (fun c => (Text.hexValue? c).isSome) 16 rest
  | '0' :: 'o' :: rest => digits (fun c => '0' ≤ c && c ≤ '7') 8 rest
  | '0' :: 'b' :: rest => digits (fun c => c == '0' || c == '1') 2 rest
  | _ => none

/-- An integer. -/
def integer? (text : List Char) : Option Toml :=
  match based? text with
  | some value => some value
  | none =>
    let (negative, digits) := sign text
    (whole? digits).map fun digits =>
      ofInteger (if negative then -(Text.ofDigits digits : Int) else Text.ofDigits digits)

/-- Half a unit above the largest 64-bit floating-point number. -/
def floatLimit : Nat := Nat.pow 2 1024 - Nat.pow 2 970

/-- Whether some digits, times a power of ten, round to a 64-bit floating-point number. -/
def isFloatInRange (digits : List Char) (exponent : Int) : Bool :=
  let value := Text.ofDigits digits
  if value = 0 then true
  else if 400 < exponent then false
  else if exponent < -(400 + digits.length : Int) then true
  else if 0 ≤ exponent then value * Nat.pow 10 exponent.toNat < floatLimit
  else value < floatLimit * Nat.pow 10 (-exponent).toNat

/-- The value of an exponent after its letter. -/
def exponent? (text : List Char) : Option Int :=
  let (negative, digits) := sign text
  (ungroup? Char.isDigit digits).map fun digits =>
    if negative then -(Text.ofDigits digits : Int) else Text.ofDigits digits

/-- A number with a fraction or an exponent or both; also an infinity, or no number. -/
def float? (text : List Char) : Option Toml :=
  let (_, unsigned) := sign text
  if unsigned = "inf".toList ∨ unsigned = "nan".toList then some float
  else
    let isMantissa (c : Char) : Bool := c != 'e' && c != 'E'
    let (mantissa, power) := unsigned.span isMantissa
    let (before, after) := mantissa.span (· != '.')
    let fraction : Option (List Char) :=
      match after with
      | [] => some []
      | _ :: digits => ungroup? Char.isDigit digits
    let exponent : Option Int :=
      match power with
      | [] => some 0
      | _ :: rest => exponent? rest
    if after = [] ∧ power = [] then none
    else
      match whole? before, fraction, exponent with
      | some before, some fraction, some exponent =>
        if isFloatInRange (before ++ fraction) (exponent - fraction.length) then some float
        else some unusable
      | _, _, _ => none

/-- The number written with exactly so many digits at the start of a text, and what follows. -/
def takeDigits? (count : Nat) (text : List Char) : Option (Nat × List Char) :=
  let digits := text.take count
  if digits.length = count ∧ digits.all Char.isDigit then
    some (Text.ofDigits digits, text.drop count)
  else none

/-- The number of days of a month. -/
def daysIn (year month : Nat) : Nat :=
  if month = 2 then
    if year % 4 = 0 ∧ (year % 100 ≠ 0 ∨ year % 400 = 0) then 29 else 28
  else if month = 4 ∨ month = 6 ∨ month = 9 ∨ month = 11 then 30
  else 31

/-- The text after a date. -/
def date? (text : List Char) : Option (List Char) :=
  match takeDigits? 4 text with
  | some (year, '-' :: rest) =>
    match takeDigits? 2 rest with
    | some (month, '-' :: rest) =>
      match takeDigits? 2 rest with
      | some (day, rest) =>
        if 1 ≤ month ∧ month ≤ 12 ∧ 1 ≤ day ∧ day ≤ daysIn year month then some rest else none
      | none => none
    | _ => none
  | _ => none

/-- The text after hours and minutes. -/
def minutes? (text : List Char) : Option (List Char) :=
  match takeDigits? 2 text with
  | some (hour, ':' :: rest) =>
    match takeDigits? 2 rest with
    | some (minute, rest) => if hour ≤ 23 ∧ minute ≤ 59 then some rest else none
    | none => none
  | _ => none

/-- The text after a time of day. Seconds may be left out, or may have a fraction. -/
def time? (text : List Char) : Option (List Char) :=
  match minutes? text with
  | some (':' :: rest) =>
    match takeDigits? 2 rest with
    | some (second, rest) =>
      if 60 < second then none
      else
        match rest with
        | '.' :: fraction =>
          let (digits, rest) := fraction.span Char.isDigit
          if digits = [] then none else some rest
        | _ => some rest
    | none => none
  | rest => rest

/-- Whether a text is empty or a distance from universal time. -/
def isOffset : List Char → Bool
  | [] | ['Z'] | ['z'] => true
  | '+' :: rest | '-' :: rest => minutes? rest == some []
  | _ => false

/-- Whether a text is a date, a time of day, or both. -/
def isMoment (text : List Char) : Bool :=
  match date? text with
  | some [] => true
  | some (mark :: rest) =>
    (mark == 'T' || mark == 't' || mark == ' ') && ((time? rest).map isOffset).getD false
  | none => time? text == some []

/-- The value that such a text stands for. -/
def bare? (text : List Char) : Option Toml :=
  if text = "true".toList then some (boolean true)
  else if text = "false".toList then some (boolean false)
  else
    match integer? text with
    | some value => some value
    | none => if isMoment text then some moment else float? text

/-- The characters that such texts are written with. -/
def isBareChar (c : Char) : Bool :=
  c.isAlphanum || c == '_' || c == '-' || c == '+' || c == '.' || c == ':'

/-- The value at the start of a text that is neither a string nor an array nor a table. A blank may
stand between a date and a time. -/
def takeBare? (text : List Char) : Option (Toml × List Char) :=
  let (front, rest) := text.span isBareChar
  match date? front, rest with
  | some [], ' ' :: digit :: later =>
    if digit.isDigit then
      let (back, rest) := (digit :: later).span isBareChar
      (bare? (front ++ ' ' :: back)).map fun value => (value, rest)
    else (bare? front).map fun value => (value, rest)
  | _, _ => (bare? front).map fun value => (value, rest)

end Statechart.Toml
