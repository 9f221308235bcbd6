import Statechart.Line
import Statechart.Proofs.Declarations

/-! What a line says that declares nothing. What stands on both sides of an arrow is a transition, and what
stands on both sides of the first colon is a text for a state. Blanks at the ends of a part do not count, and
they are all that gets lost: each is read exactly off the texts that are made of its parts. -/
namespace Statechart

/-- Nothing but blanks. -/
def Text.Blanks (text : List Char) : Prop :=
  ∀ c ∈ text, isBlank c = true

/-- What can follow the target of a transition: nothing, or a colon and the event. Blanks are no event. -/
inductive TellsEvent : List Char → Option String → Prop where
  | silent : TellsEvent [] none
  | blank {label : List Char} (hollow : Text.trim label = []) : TellsEvent (':' :: label) none
  | named {label : List Char} (written : Text.trim label ≠ []) :
      TellsEvent (':' :: label) (some (String.ofList (Text.trim label)))

namespace Text

variable {text : List Char}

theorem Blanks.not_mem {c : Char} (blanks : Blanks text) (solid : isBlank c = false) : c ∉ text := by
  intro member
  rw [blanks c member] at solid
  cases solid

/-- Trimming takes blanks off both ends. -/
theorem exists_margins (text : List Char) :
    ∃ before after, Blanks before ∧ Blanks after ∧ text = before ++ trim text ++ after := by
  refine ⟨text.takeWhile isBlank, (trimStart text).rtakeWhile isBlank,
    fun c => List.mem_takeWhile_imp, fun c => List.mem_rtakeWhile_imp, ?_⟩
  have ended : trim text ++ (trimStart text).rtakeWhile isBlank = trimStart text :=
    List.rdropWhile_append_rtakeWhile
  rw [List.append_assoc, ended]
  exact List.takeWhile_append_dropWhile.symm

/-- The start of a trimmed text has blanks to lose at its end only. -/
theorem exists_margin {part : List Char} (trimmed : trim text = text) (begins : part <+: text) :
    ∃ after, Blanks after ∧ part = trim part ++ after := by
  have started : trimStart part = part := by
    apply trimStart_eq_self_of_isPrefix begins
    rw [← trimmed, trimStart_trim]
  refine ⟨part.rtakeWhile isBlank, fun c => List.mem_rtakeWhile_imp, ?_⟩
  rw [trim, started]
  exact List.rdropWhile_append_rtakeWhile.symm

theorem trim_margins {before after : List Char} (opening : Blanks before) (closing : Blanks after)
    (trimmed : trim text = text) : trim (before ++ text ++ after) = text := by
  rw [trim_append_blanks closing, trim_blanks_append opening, trimmed]

end Text

namespace Line

variable {text left right : List Char} {source target name remark : String} {event : Option String}

/-- What is left of a part after trimming is a text on its own unless nothing is left. -/
theorem written_ofList_trim {part : List Char} (nonempty : Text.trim part ≠ []) :
    Written (String.ofList (Text.trim part)) where
  ne_empty := by simpa using nonempty
  trim_eq := by rw [String.toList_ofList, Text.trim_trim]

/-- An event is told by a colon and whatever leaves it when it loses its blanks. -/
theorem tellsEvent_of_trim {label : List Char} {event : String} (happens : Written event)
    (spelled : Text.trim label = event.toList) : TellsEvent (':' :: label) (some event) := by
  have written : Text.trim label ≠ [] := by
    rw [spelled]
    exact happens.ne_nil
  have tells := TellsEvent.named written
  rwa [spelled, String.ofList_toList] at tells

/-- What follows an arrow is a target and what tells the event. -/
theorem exists_tellsEvent (right : List Char) :
    ∃ body tail event, right = body ++ tail ∧ ':' ∉ body ∧ TellsEvent tail event := by
  cases cut : Text.cut? [':'] right with
  | none =>
    refine ⟨right, [], none, (List.append_nil right).symm, ?_, .silent⟩
    intro member
    obtain ⟨front, back, shape⟩ := List.append_of_mem member
    exact Text.cut?_eq_none_iff.mp cut ⟨front, back, by simp [shape]⟩
  | some parts =>
    obtain ⟨body, label⟩ := parts
    obtain ⟨uncut, shape⟩ := Text.cut?_eq_some_iff.mp cut
    by_cases hollow : Text.trim label = []
    · exact ⟨body, _, none, shape, uncut, .blank hollow⟩
    · exact ⟨body, _, _, shape, uncut, .named hollow⟩

/-- An arrow is read as a transition between what is on both sides of it. -/
theorem ofArrow_eq {body tail : List Char} (left : List Char) (uncut : ':' ∉ body)
    (tells : TellsEvent tail event) :
    ofArrow left (body ++ tail) =
      if Text.trim left = [] ∨ Text.trim body = [] then ignored
      else .transition (String.ofList (Text.trim left)) (String.ofList (Text.trim body)) event := by
  cases tells with
  | silent =>
    unfold ofArrow
    rw [List.append_nil, Text.cut?_eq_none uncut]
    rfl
  | @blank label hollow =>
    have cut : Text.cut? [':'] (body ++ ':' :: label) = some (body, label) :=
      Text.cut?_eq_some_iff.mpr ⟨uncut, rfl⟩
    unfold ofArrow
    rw [cut]
    dsimp only
    rw [if_pos hollow]
  | @named label written =>
    have cut : Text.cut? [':'] (body ++ ':' :: label) = some (body, label) :=
      Text.cut?_eq_some_iff.mpr ⟨uncut, rfl⟩
    unfold ofArrow
    rw [cut]
    dsimp only
    rw [if_neg written]

/-- What stands on both sides of an arrow is read as a transition exactly if there is a name on each side. -/
theorem ofArrow_eq_transition_iff :
    ofArrow left right = .transition source target event ↔
      Written source ∧ Written target ∧ Text.trim left = source.toList ∧
        ∃ body tail, right = body ++ tail ∧ ':' ∉ body ∧ Text.trim body = target.toList ∧
          TellsEvent tail event := by
  constructor
  · intro read
    obtain ⟨body, tail, told, rfl, uncut, tells⟩ := exists_tellsEvent right
    rw [ofArrow_eq left uncut tells] at read
    split at read
    · cases read
    · rename_i named
      obtain ⟨start, ended⟩ := not_or.mp named
      cases read
      exact ⟨written_ofList_trim start, written_ofList_trim ended, String.toList_ofList.symm, body, tail,
        rfl, uncut, String.toList_ofList.symm, tells⟩
  · rintro ⟨start, ended, spelled, body, tail, rfl, uncut, spelledTarget, tells⟩
    rw [ofArrow_eq left uncut tells, spelled, spelledTarget,
      if_neg (not_or.mpr ⟨start.ne_nil, ended.ne_nil⟩), String.ofList_toList, String.ofList_toList]

/-- A line without an arrow is read as a text for a state exactly if a name stands before its first colon. -/
theorem ofAnnotation_eq_content_iff :
    ofAnnotation text = .content name remark ↔
      Written name ∧ ∃ before tail, text = before ++ ':' :: tail ∧ ':' ∉ before ∧
        Text.trim before = name.toList ∧ remark = String.ofList (Text.trim tail) := by
  constructor
  · intro read
    unfold ofAnnotation at read
    split at read
    · cases read
    · rename_i before after cut
      obtain ⟨uncut, shape⟩ := Text.cut?_eq_some_iff.mp cut
      split at read
      · cases read
      · rename_i nonempty
        cases read
        exact ⟨written_ofList_trim nonempty, before, after, shape, uncut, String.toList_ofList.symm, rfl⟩
  · rintro ⟨named, before, tail, rfl, uncut, spelled, rfl⟩
    have cut : Text.cut? [':'] (before ++ ':' :: tail) = some (before, tail) :=
      Text.cut?_eq_some_iff.mpr ⟨uncut, rfl⟩
    unfold ofAnnotation
    rw [cut]
    dsimp only
    rw [spelled]
    split
    · rename_i empty
      exact absurd empty named.ne_nil
    · rw [String.ofList_toList]

theorem ofArrow_eq_ignored_or (left right : List Char) :
    ofArrow left right = ignored ∨
      ∃ source target event, ofArrow left right = .transition source target event := by
  obtain ⟨body, tail, event, rfl, uncut, tells⟩ := exists_tellsEvent right
  rw [ofArrow_eq left uncut tells]
  split
  · exact .inl rfl
  · exact .inr ⟨_, _, _, rfl⟩

theorem ofAnnotation_eq_ignored_or (text : List Char) :
    ofAnnotation text = ignored ∨ ∃ name remark, ofAnnotation text = .content name remark := by
  unfold ofAnnotation
  split
  · exact .inl rfl
  · split
    · exact .inl rfl
    · exact .inr ⟨_, _, rfl⟩

end Line

end Statechart
