/-! JSON values. A natural number is kept as a number; any other number is kept as it was written,
because nothing here computes with it. The members of an object are kept in their order. -/
namespace Statechart

/-- A JSON value. -/
inductive Json where
  /-- The word `null`. -/
  | null
  /-- One of the words `true` and `false`. -/
  | bool (value : Bool)
  /-- A number written with digits alone. -/
  | natural (value : Nat)
  /-- A number with a sign, a fraction or an exponent. -/
  | number (literal : String)
  /-- A string. -/
  | string (value : String)
  /-- Values in a row. -/
  | array (items : List Json)
  /-- Values under names. -/
  | object (members : List (String × Json))
deriving Repr, Inhabited

namespace Json

/-- The value under a name; of several the last one counts. -/
def get? (name : String) : Json → Option Json
  | object members => members.reverse.lookup name
  | _ => none

/-- A string. -/
def string? : Json → Option String
  | string value => some value
  | _ => none

/-- A natural number of at most 64 bits. -/
def word? : Json → Option Nat
  | natural value => if value < UInt64.size then some value else none
  | _ => none

/-- The items of an array. -/
def items? : Json → Option (List Json)
  | array items => some items
  | _ => none

/-- The items of an array, each read in the same way. -/
def list? (read : Json → Option α) (value : Json) : Option (List α) :=
  value.items?.bind fun items => items.mapM read

end Json

end Statechart
