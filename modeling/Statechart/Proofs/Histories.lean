import Statechart.Proofs.Declarations
import Statechart.Proofs.Stability

/-! The histories of states that are named. Written with its owner, a history is one state of that owner: it
is created when it is first written, and from then on it is found by what was written, from every scope and in
every role. What else is added to the diagram does not matter, be it histories of other states or states with
the name of the marker that are no histories; only nicknames can give what was written another meaning. -/
namespace Statechart

/-- The history of a state, as it is written: the name of the state and a pair of brackets with an `H` between
them. -/
structure OwnedHistory where
  /-- The name before the brackets. -/
  owner : String
  /-- What stands between the brackets. -/
  inside : String
  written : Written owner
  unbracketed : '[' ∉ owner.toList
  closed : ']' ∉ inside.toList
  remembers : 'H' ∈ inside.toList

namespace OwnedHistory

/-- The brackets with what stands between them, which is the name of the history. -/
def marker (h : OwnedHistory) : String :=
  "[" ++ h.inside ++ "]"

/-- All that is written. -/
def text (h : OwnedHistory) : String :=
  h.owner ++ h.marker

theorem toList_marker (h : OwnedHistory) : h.marker.toList = '[' :: h.inside.toList ++ [']'] := by
  simp [marker]

theorem toList_text (h : OwnedHistory) :
    h.text.toList = h.owner.toList ++ '[' :: h.inside.toList ++ [']'] := by
  simp [text, toList_marker]

theorem ofString_text (h : OwnedHistory) :
    Name.ofString h.text = .history (some h.owner) h.marker := by
  rw [← String.ofList_toList (s := h.text), toList_text,
    Name.ofString_brackets h.written.trim_eq h.unbracketed h.closed h.remembers, if_neg h.written.ne_nil,
    String.ofList_toList, ← toList_marker, String.ofList_toList]

/-- The name of the owner has no blank before it, and the last bracket none after it. -/
theorem trim_text (h : OwnedHistory) : Text.trim h.text.toList = h.text.toList := by
  rw [toList_text, Name.trim_brackets h.written.trim_eq]

variable {d : Draft} {h : OwnedHistory} {holder : State} {role : Role} {id : StateId}

/-- What is written asks for the history of the first state that bears the owner's name. -/
theorem request_text (free : d.nicknames.get? h.text = none)
    (held : d.registry.findByName? (d.nicknames.fullName h.owner) = some holder) :
    d.request .global (d.fullName h.text) = .history h.marker (.state holder.id) := by
  have full : d.fullName h.text = h.text := by
    rw [Draft.fullName, h.trim_text, String.ofList_toList, Nicknames.fullName, free]
    rfl
  have known : d.findPlain? .global (d.nicknames.fullName h.owner) = some holder := held
  rw [full, Draft.request, h.ofString_text]
  dsimp only
  rw [known]

theorem resolve_text_eq_found_iff (free : d.nicknames.get? h.text = none)
    (held : d.registry.findByName? (d.nicknames.fullName h.owner) = some holder) :
    d.resolve .global h.text role = .found id ↔
      ∃ s, d.registry.findHistory? h.marker (.state holder.id) = some s ∧ s.id = id := by
  rw [Draft.resolve_eq_found_iff, request_text free held]
  rfl

end OwnedHistory

/-- The same draft, seen from other scopes. -/
def Draft.within (d : Draft) (nesting : Nesting) : Draft :=
  { d with nesting }

namespace Reading

variable {o : Options} {early there late : Reading} {h : OwnedHistory} {holder : State} {number : Nat}
  {role : Role} {id : StateId}

/-- Where the history is obtained, it is there afterwards, be it found or created. -/
theorem findHistory?_of_obtain (global : o.identity = .global)
    (free : early.draft.nicknames.get? h.text = none)
    (held : early.draft.registry.findByName? (early.draft.nicknames.fullName h.owner) = some holder)
    (obtained : early.obtain o number h.text role none = .ok (id, there)) :
    ∃ s, there.draft.registry.findHistory? h.marker (.state holder.id) = some s ∧ s.id = id := by
  rcases obtain_eq_ok_iff.mp obtained with ⟨found, rfl⟩ | ⟨place, missing, -, rfl, rfl⟩
  · rw [global] at found
    exact (OwnedHistory.resolve_text_eq_found_iff free held).mp found
  · rw [global] at missing
    obtain ⟨none, rfl⟩ := Draft.resolve_eq_missing_iff.mp missing
    rw [OwnedHistory.request_text free held] at none ⊢
    have before : early.draft.registry.findHistory? h.marker (.state holder.id) = .none := none
    refine ⟨State.blank (early.draft.registry.lastId + 1) h.marker .history (.state holder.id), ?_, rfl⟩
    unfold Registry.findHistory? at before ⊢
    show List.find? _ (early.draft.registry.states ++ [_]) = _
    rw [List.find?_append, before]
    simp [State.blank, Request.placement]

/-- And it is found ever after, from wherever it is written. -/
theorem resolve_text_of_grows (grown : there.toAnalysis.Grows late.toAnalysis) {name : String} {s : State}
    (held : there.draft.registry.findByName? name = some holder)
    (found : there.draft.registry.findHistory? h.marker (.state holder.id) = some s)
    (same : late.draft.nicknames.fullName h.owner = name)
    (free : late.draft.nicknames.get? h.text = none) (nesting : Nesting) (role : Role) :
    (late.draft.within nesting).resolve .global h.text role = .found s.id := by
  obtain ⟨holder', held', sameHolder⟩ := findPlain?_of_grows grown held
  obtain ⟨s', found', sameId⟩ :=
    grown.find?_eq_some (fun same => by rw [same.kind, same.name, same.owner]) found
  rw [← same] at held'
  apply (OwnedHistory.resolve_text_eq_found_iff (d := late.draft.within nesting) free held').mpr
  rw [sameHolder]
  exact ⟨s', found', sameId⟩

end Reading

/-- Where names count everywhere, the history of a state that is there is a state of its own: once what is
written for it was obtained as an end of a transition, it is a history that belongs to the first state with the
owner's name and bears the marker as its name, and after whatever else was read, the same text refers to it from
every scope and in every role. All that can change this is a nickname, for the owner's name or for the whole
text. -/
theorem history_found_from_anywhere {o : Options} {startingId : StateId} {early there : Reading}
    {h : OwnedHistory} {holder : State} {number : Nat} {role : Role} {id : StateId}
    (global : o.identity = .global) (reached : Reading.Moves o (.start startingId) early)
    (free : early.draft.nicknames.get? h.text = none)
    (held : early.draft.registry.findByName? (early.draft.nicknames.fullName h.owner) = some holder)
    (obtained : early.obtain o number h.text role none = .ok (id, there)) :
    (∃ s, there.draft.registry.get? id = some s ∧ s.kind = .history ∧ s.name = h.marker ∧
      s.owner = .state holder.id) ∧
    ∀ late, Reading.Moves o there late →
      late.draft.nicknames.fullName h.owner = early.draft.nicknames.fullName h.owner →
      late.draft.nicknames.get? h.text = none →
      ∀ (nesting : Nesting) (role' : Role),
        (late.draft.within nesting).resolve o.identity h.text role' = .found id := by
  have onward := (Reading.obtain_moves none (by simp) obtained).1.moves
  have numbered := onward.numbered (reached.numbered (Registry.numbered_empty startingId))
  obtain ⟨s, found, rfl⟩ := Reading.findHistory?_of_obtain global free held obtained
  refine ⟨?_, ?_⟩
  · have met : there.draft.search .global role (.history h.marker (.state holder.id)) = some s := found
    obtain ⟨member, name, fits⟩ := Draft.search_eq_some met
    obtain ⟨kind, owner⟩ := fits (by simp [Request.kind])
    exact ⟨s, numbered.get?_eq_some_iff.mpr ⟨member, rfl⟩, kind, name, owner⟩
  · intro late moves same free' nesting role'
    obtain ⟨holder', held', sameHolder⟩ := Reading.findPlain?_of_grows onward.grows held
    rw [← sameHolder] at found
    rw [global]
    exact Reading.resolve_text_of_grows moves.grows held' found same free' nesting role'

/-- The history of `P`, which stands for `Long`. -/
def pausedHistory : OwnedHistory where
  owner := "P"
  inside := "H*"
  written := ⟨by decide, by decide⟩
  unbracketed := by decide
  closed := by decide
  remembers := by decide

/-- A state and its history, a fork in it that bears the name of the marker, and the history of another
state. -/
def paused : String :=
  "state \"Long\" as P \x7b\nstate [H*] <<fork>>\nstate Running \x7b\nWork --> P[H*]\nWork --> Work[H*]"

theorem history_found_from_anywhere_paused :
    ∃ before early there late,
      Reading.run {} (.start 6) ((numberedLines paused).take 3) = .ok before ∧
      before.obtain {} 4 "Work" .source none = .ok (10, early) ∧
      early.obtain {} 4 "P[H*]" .target none = .ok (11, there) ∧
      (∃ s, there.draft.registry.get? 11 = some s ∧ s.kind = .history ∧ s.name = "[H*]" ∧
        s.owner = .state 7) ∧
      Reading.run {} (.start 6) (numberedLines paused) = .ok late ∧
      late.draft.nesting.outward = [.state 9, .state 7, .root] ∧
      ∀ nesting role, (late.draft.within nesting).resolve .global "P[H*]" role = .found 11 := by
  obtain ⟨before, early, there, late, ranBefore, obtainedSource, obtained, ran, surrounding, free, held,
      bound, bound', free'⟩ : ∃ before early there late,
      Reading.run {} (.start 6) [(.composite "Long" (some "P"), 1), (.stereotyped "[H*]" "fork", 2),
        (.composite "Running" none, 3)] = .ok before ∧
      before.obtain {} 4 "Work" .source none = .ok (10, early) ∧
      early.obtain {} 4 "P[H*]" .target none = .ok (11, there) ∧
      Reading.run {} (.start 6) [(.composite "Long" (some "P"), 1), (.stereotyped "[H*]" "fork", 2),
        (.composite "Running" none, 3), (.transition "Work" "P[H*]" none, 4),
        (.transition "Work" "Work[H*]" none, 5)] = .ok late ∧
      late.draft.nesting.outward = [.state 9, .state 7, .root] ∧
      early.draft.nicknames.get? "P[H*]" = none ∧
      early.draft.registry.findByName? "Long" = some (.blank 7 "Long" .plain .root) ∧
      early.draft.nicknames.fullName "P" = "Long" ∧ late.draft.nicknames.fullName "P" = "Long" ∧
      late.draft.nicknames.get? "P[H*]" = none :=
    ⟨_, _, _, _, by cbv, by cbv, by cbv, by cbv, by cbv, by cbv, by cbv, by cbv, by cbv, by cbv⟩
  have lines : numberedLines paused =
      [(.composite "Long" (some "P"), 1), (.stereotyped "[H*]" "fork", 2), (.composite "Running" none, 3),
        (.transition "Work" "P[H*]" none, 4), (.transition "Work" "Work[H*]" none, 5)] := by
    decide +kernel
  have writes : before.Writes {} (.transition "Work" "P[H*]" none) 4 ⟨10, 11, none⟩ there :=
    ⟨"Work", "P[H*]", early, rfl, obtainedSource, obtained⟩
  have reached := (Reading.run_moves ranBefore).trans
    (Reading.obtain_moves none (by simp) obtainedSource).1.moves
  have here : Reading.ReachedAt {} (.start 6) (numberedLines paused)
      (.transition "Work" "P[H*]" none, 4) before := by
    rw [lines]
    exact ⟨_, _, rfl, ranBefore⟩
  have whole : Reading.run {} (.start 6) (numberedLines paused) = .ok late := by
    rw [lines]
    exact ran
  have onward : Reading.Moves {} there late := writes.moves here whole
  have written : pausedHistory.text = "P[H*]" := by decide
  obtain ⟨made, anywhere⟩ := history_found_from_anywhere (h := pausedHistory) rfl reached
    (by rw [written, free]) (by rw [← held, ← bound]; rfl) (by rw [written, obtained])
  refine ⟨before, early, there, late, ?_, obtainedSource, obtained, made, whole, surrounding, ?_⟩
  · rw [lines]
    exact ranBefore
  · rw [← written]
    exact anywhere late onward (bound'.trans bound.symm) (by rw [written, free'])

end Statechart
