/-! TOML values, and tables while they are being put together. Entries keep the order in which they
were written. A table remembers how it came about, because that decides what may still be added to
it. -/
namespace Statechart

/-- How a table came about. -/
inductive Toml.Origin where
  /-- The header of a table inside it was read, but not its own. -/
  | implied
  /-- It is part of a dotted key before an equals sign. -/
  | dotted
  /-- It has a header of its own. -/
  | declared
  /-- It was written as a value, between braces. -/
  | inline
deriving DecidableEq, Repr, Inhabited

/-- A TOML value. -/
inductive Toml where
  /-- A string, in any of its notations. -/
  | string (value : String)
  /-- An integer that 128 bits can hold, with or without a sign. -/
  | integer (value : Int)
  /-- A number with a fraction or an exponent that 64-bit floating point can hold, an infinity, or no
  number. -/
  | float
  /-- A number that cannot be held, or one that names its base but has no digits. It is a fault, but
  only where somebody looks at it. -/
  | unusable
  /-- One of the words `true` and `false`. -/
  | boolean (value : Bool)
  /-- A date, a time of day, or both. -/
  | moment
  /-- An array that was written as a value. -/
  | array (items : List Toml)
  /-- An array of tables with headers. -/
  | tables (items : List (List (String × Toml)))
  /-- A table. -/
  | table (origin : Toml.Origin) (entries : List (String × Toml))
deriving Repr, Inhabited

namespace Toml

/-- The entries of a table. -/
abbrev Entries := List (String × Toml)

/-- Changes the value under a key that is in use. -/
def Entries.replace (key : String) (value : Toml) (entries : Entries) : Entries :=
  entries.map fun entry => if entry.1 = key then (key, value) else entry

/-- Adds an entry under a dotted key to the entries of a table of some origin. Tables on the way are
created. A table on the way that exists must itself have come from dotted keys or be implied, and the
one that receives the entry must have come from dotted keys, except if the key has no dots. -/
def assign (value : Toml) (last : String) (hasDots : Bool) :
    List String → Origin → Entries → Option Entries
  | [], origin, entries =>
    if (origin == .dotted) == hasDots ∧ (entries.lookup last).isNone then
      some (entries ++ [(last, value)])
    else none
  | step :: path, _, entries =>
    match entries.lookup step with
    | none =>
      (assign value last hasDots path .dotted []).map fun inner =>
        entries ++ [(step, .table .dotted inner)]
    | some (.table origin inner) =>
      if origin = .implied ∨ origin = .dotted then
        (assign value last hasDots path origin inner).map fun inner =>
          entries.replace step (.table origin inner)
      else none
    | some (.tables items) =>
      match items.getLast? with
      | none => none
      | some inner =>
        (assign value last hasDots path .declared inner).map fun inner =>
          entries.replace step (.tables (items.dropLast ++ [inner]))
    | some _ => none

/-- Adds an entry under a key, given as its parts, to the entries of a table that is being written. -/
def Entries.assign? (entries : Entries) (key : List String) (value : Toml) : Option Entries :=
  match key.getLast? with
  | none => none
  | some last => assign value last (1 < key.length) key.dropLast .declared entries

/-- Changes the entries of the table that a header leads to. Tables on the way are created, an array
of tables stands for its last item, and tables written as values cannot be entered. -/
def within (change : Entries → Option Entries) : List String → Entries → Option Entries
  | [], entries => change entries
  | step :: path, entries =>
    match entries.lookup step with
    | none =>
      (within change path []).map fun inner => entries ++ [(step, .table .implied inner)]
    | some (.table origin inner) =>
      if origin = .inline then none
      else
        (within change path inner).map fun inner => entries.replace step (.table origin inner)
    | some (.tables items) =>
      match items.getLast? with
      | none => none
      | some inner =>
        (within change path inner).map fun inner =>
          entries.replace step (.tables (items.dropLast ++ [inner]))
    | some _ => none

/-- Gives a table its header. It may exist only because of headers of tables inside it. -/
def declare (key : String) (entries : Entries) : Option Entries :=
  match entries.lookup key with
  | none => some (entries ++ [(key, .table .declared [])])
  | some (.table .implied inner) => some (entries.replace key (.table .declared inner))
  | some _ => none

/-- Adds an empty table to an array of tables. -/
def addItem (key : String) (entries : Entries) : Option Entries :=
  match entries.lookup key with
  | none => some (entries ++ [(key, .tables [[]])])
  | some (.tables items) => some (entries.replace key (.tables (items ++ [[]])))
  | some _ => none

mutual

/-- Whether a value can be looked at as a whole. -/
def isUsable : Toml → Bool
  | unusable => false
  | array items => allUsable items
  | tables items => tablesUsable items
  | table _ entries => entriesUsable entries
  | _ => true

/-- Whether some values can all be looked at. -/
def allUsable : List Toml → Bool
  | [] => true
  | item :: later => isUsable item && allUsable later

/-- Whether some tables can all be looked at. -/
def tablesUsable : List (List (String × Toml)) → Bool
  | [] => true
  | entries :: later => entriesUsable entries && tablesUsable later

/-- Whether the values under some keys can all be looked at. -/
def entriesUsable : List (String × Toml) → Bool
  | [] => true
  | (_, value) :: later => isUsable value && entriesUsable later

end

end Toml

end Statechart
