/-! Numbers written with hexadecimal digits, in either case. -/
namespace Statechart.Text

/-- The value of a hexadecimal digit. -/
def hexValue? (c : Char) : Option Nat :=
  if '0' ≤ c ∧ c ≤ '9' then some (c.toNat - '0'.toNat)
  else if 'a' ≤ c ∧ c ≤ 'f' then some (c.toNat - 'a'.toNat + 10)
  else if 'A' ≤ c ∧ c ≤ 'F' then some (c.toNat - 'A'.toNat + 10)
  else none

/-- The number that some digits write, after a number that the digits before them write. -/
def hexNumber? (value : Nat) : List Char → Option Nat
  | [] => some value
  | c :: rest =>
    match hexValue? c with
    | some digit => hexNumber? (value * 16 + digit) rest
    | none => none

/-- The number written with exactly so many characters at the start of a text, and what follows. -/
def takeHex? (count : Nat) (text : List Char) : Option (Nat × List Char) :=
  if (text.take count).length = count then
    (hexNumber? 0 (text.take count)).map fun value => (value, text.drop count)
  else none

theorem length_of_takeHex? {text rest : List Char} (read : takeHex? count text = some (n, rest)) :
    rest.length + count = text.length := by
  unfold takeHex? at read
  split at read
  · rename_i enough
    simp only [Option.map_eq_some_iff, Prod.mk.injEq] at read
    obtain ⟨value, -, -, dropped⟩ := read
    simp only [List.length_take] at enough
    simp only [← dropped, List.length_drop]
    omega
  · simp at read

end Statechart.Text
