import Statechart.Issue

/-! Nicknames. A nickname stands for one full name throughout a diagram: the first introduction
counts, and another one for a different name is a conflict. -/
namespace Statechart

/-- The nicknames introduced so far, each with the name it stands for. -/
structure Nicknames where
  /-- Pairs of a nickname and its full name, the latest first. -/
  entries : List (String × String)
deriving DecidableEq, Repr

namespace Nicknames

/-- No nicknames. -/
def empty : Nicknames := ⟨[]⟩

/-- The full name that a nickname was introduced for. -/
def get? (table : Nicknames) (nickname : String) : Option String :=
  table.entries.lookup nickname

/-- The full name behind a name: what it was introduced for, or itself if it is no nickname. The
answer is not looked up again. -/
def fullName (table : Nicknames) (name : String) : String :=
  (table.get? name).getD name

/-- Introduces a nickname. Repeating an introduction is harmless. -/
def introduce (table : Nicknames) (fullName nickname : String) : Except Issue Nicknames :=
  match table.get? nickname with
  | none => .ok ⟨(nickname, fullName) :: table.entries⟩
  | some existing =>
    if existing = fullName then .ok table
    else .error (.aliasConflict nickname existing fullName)

end Nicknames

end Statechart
