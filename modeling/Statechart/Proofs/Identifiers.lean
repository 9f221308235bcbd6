import Mathlib
import Statechart.Proofs.ExactReports

/-! Numbers within and across diagrams. The states of a diagram are numbered in the order of their
creation, from the number above the given one on and without a gap. So if each of several diagrams goes on
from the highest number that was returned before, the numbers of all their states are one run of
numbers. A diagram that cannot be read returns none, and neither does one without states: the next diagram
goes on as if they had not been there. -/
namespace Statechart

/-- The numbers of the states that were returned. A diagram that cannot be read returns none. -/
def returnedIds : Except Diagnostic (List State) → List StateId
  | .ok states => states.map (·.id)
  | .error _ => []

/-- The number that the next diagram goes on from: the highest one that was returned, or the same one as
before if none was. -/
def nextLast (last : UInt64) (result : Except Diagnostic (List State)) : UInt64 :=
  match (returnedIds result).max? with
  | some highest => .ofNat highest
  | none => last

/-- What comes of diagrams that are read one after the other, each of them above the numbers of those
before it. -/
def statesInTurn (last : UInt64) : List String → List (Except Diagnostic (List State))
  | [] => []
  | text :: later =>
    statesAbove last text :: statesInTurn (nextLast last (statesAbove last text)) later

variable {o : Options} {text : String} {a : Analysis} {last : UInt64}
  {result : Except Diagnostic (List State)}

/-- The number of a state follows from its place, and the last number from how many states there are. -/
theorem id_of_place (read : analyze o text = .ok a) :
    (∀ i s, a.states[i]? = some s → s.id = o.startingId.toNat + 1 + i) ∧
      a.lastId = o.startingId.toNat + a.states.length := by
  obtain ⟨r, ran, rfl⟩ := analyze_eq_ok_iff.mp read
  have moves := Reading.run_moves ran
  have start : r.draft.registry.startingId = o.startingId.toNat := moves.startingId_eq
  have numbered := moves.numbered (Registry.numbered_empty _)
  rw [← start]
  exact ⟨numbered, rfl⟩

theorem lastId_le_max (read : analyze o text = .ok a) : a.lastId ≤ StateId.max := by
  obtain ⟨r, ran, rfl⟩ := analyze_eq_ok_iff.mp read
  exact (Reading.run_moves ran).lastId_le_max (Reading.start_lastId_le_max _)

/-- The states of a diagram are numbered from the given number on. -/
theorem returnedIds_statesAbove (last : UInt64) (text : String) :
    ∃ count, returnedIds (statesAbove last text) = List.range' (last.toNat + 1) count ∧
      last.toNat + count ≤ StateId.max := by
  cases read : statesAbove last text with
  | error d => exact ⟨0, rfl, Nat.le_pred_of_lt last.toNat_lt⟩
  | ok states =>
    obtain ⟨a, analyzed, rest⟩ := bind_eq_ok_iff.mp read
    cases rest
    obtain ⟨placed, counted⟩ := id_of_place analyzed
    refine ⟨a.states.length, ?_, counted.symm.trans_le (lastId_le_max analyzed)⟩
    apply List.ext_getElem?
    intro i
    rw [returnedIds, List.getElem?_map]
    by_cases inside : i < a.states.length
    · rw [List.getElem?_eq_getElem inside, List.getElem?_range' inside, Option.map_some,
        placed i _ (List.getElem?_eq_getElem inside), Nat.one_mul]
    · rw [List.getElem?_eq_none (by omega), List.getElem?_eq_none (by rw [List.length_range']; omega),
        Option.map_none]

theorem max?_range' (first count : Nat) :
    (List.range' first (count + 1)).max? = some (first + count) := by
  rw [List.max?_eq_some_iff]
  constructor
  · rw [List.mem_range'_1]
    omega
  · intro number member
    rw [List.mem_range'_1] at member
    omega

/-- The next diagram goes on where the numbers end. -/
theorem nextLast_toNat {count : Nat} (ids : returnedIds result = List.range' (last.toNat + 1) count)
    (room : last.toNat + count ≤ StateId.max) : (nextLast last result).toNat = last.toNat + count := by
  unfold nextLast
  rw [ids]
  cases count with
  | zero => rfl
  | succ count =>
    rw [max?_range']
    dsimp only
    rw [UInt64.toNat_ofNat_of_lt' (by unfold StateId.max at room; omega)]
    omega

/-- Diagrams that are read in turn share one run of numbers. -/
theorem returnedIds_statesInTurn (last : UInt64) (texts : List String) :
    ∃ count, (statesInTurn last texts).flatMap returnedIds = List.range' (last.toNat + 1) count ∧
      last.toNat + count ≤ StateId.max := by
  induction texts generalizing last with
  | nil => exact ⟨0, rfl, Nat.le_pred_of_lt last.toNat_lt⟩
  | cons text later ih =>
    obtain ⟨here, ids, room⟩ := returnedIds_statesAbove last text
    obtain ⟨beyond, idsLater, roomLater⟩ := ih (nextLast last (statesAbove last text))
    rw [nextLast_toNat ids room] at idsLater roomLater
    refine ⟨here + beyond, ?_, by omega⟩
    rw [statesInTurn, List.flatMap_cons, ids, idsLater, ← List.range'_append_1]
    congr 2
    omega

/-- The states of a diagram are numbered one by one above the given number, and the last number is the
given one plus their count and fits in 64 bits. If diagrams are read in turn, each above the highest number
returned so far, then the numbers of all states together are the ones above the given number, in order,
each of them once. -/
theorem ids_consecutive :
    (∀ (o : Options) (text : String) (a : Analysis), analyze o text = .ok a →
      (∀ i s, a.states[i]? = some s → s.id = o.startingId.toNat + 1 + i) ∧
        a.lastId = o.startingId.toNat + a.states.length ∧ a.lastId ≤ 2 ^ 64 - 1) ∧
    ∀ (last : UInt64) (texts : List String), ∃ count,
      (statesInTurn last texts).flatMap returnedIds = List.range' (last.toNat + 1) count ∧
        last.toNat + count ≤ 2 ^ 64 - 1 := by
  refine ⟨?_, returnedIds_statesInTurn⟩
  intro o text a read
  obtain ⟨placed, counted⟩ := id_of_place read
  exact ⟨placed, counted, lastId_le_max read⟩

/-- The two numbers that are left are used up, and a text without states and one that cannot be read stand
between others. -/
theorem ids_consecutive_upToLimit :
    (∃ a, analyze { startingId := 18446744073709551613 } "A --> B" = .ok a ∧
      a.states.length = 2 ∧ a.lastId = 18446744073709551613 + 2 ∧ a.lastId ≤ 2 ^ 64 - 1) ∧
    (statesInTurn 7 ["A --> B", "' nothing", "C\nstate D\nGhost : x", "[*] --> E"]).map returnedIds =
      [[8, 9], [], [], [10, 11]] ∧
    ∃ count, (statesInTurn 7 ["A --> B", "' nothing", "C\nstate D\nGhost : x", "[*] --> E"]).flatMap
      returnedIds = List.range' 8 count := by
  obtain ⟨single, inTurn⟩ := ids_consecutive
  obtain ⟨a, read, counted⟩ : ∃ a, analyze { startingId := 18446744073709551613 } "A --> B" = .ok a ∧
      a.states.length = 2 := ⟨_, by cbv, by cbv⟩
  obtain ⟨-, last, fits⟩ := single _ _ _ read
  obtain ⟨count, ids, -⟩ := inTurn 7 ["A --> B", "' nothing", "C\nstate D\nGhost : x", "[*] --> E"]
  refine ⟨⟨a, read, counted, ?_, fits⟩, by cbv, count, ids⟩
  rw [last, counted]
  rfl

end Statechart
