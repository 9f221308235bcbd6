import Statechart.Proofs.Ownership

/-! The scopes that surround a line. A line that opens a brace enters one state, which is there by then,
whether its nickname is in conflict and whether the state is new or not; a closing brace leaves the innermost
state, if one is open; and no other line opens or closes anything. So the diagram surrounds everything, inside
it there are only states that exist, and how many of them are open can be counted on the lines. -/
namespace Statechart

namespace Nesting

variable {n : Nesting} {id : StateId}

/-- A state that is entered comes before the scopes that surround it. -/
theorem outward_enter (n : Nesting) (id : StateId) :
    (n.enter id).outward = .state id :: n.outward := rfl

/-- The diagram itself is never left. -/
theorem outward_leave (n : Nesting) :
    n.leave.outward = if 1 < n.outward.length then n.outward.tail else n.outward := by
  unfold leave outward
  cases n.enclosing <;> simp

theorem length_outward (n : Nesting) : n.outward.length = n.depth + 1 := by
  simp [outward, depth]

end Nesting

/-- The number of open braces after a line, from the number before it. A closing brace for which none
is open closes nothing. -/
def Line.braces (line : Line) (depth : Nat) : Nat :=
  match line with
  | composite .. => depth + 1
  | close => depth - 1
  | _ => depth

/-- The number of open braces after some lines. -/
def braceDepth (lines : List (Line × Nat)) : Nat :=
  lines.foldl (fun depth entry => entry.1.braces depth) 0

theorem braceDepth_concat (lines : List (Line × Nat)) (line : Line) (number : Nat) :
    braceDepth (lines ++ [(line, number)]) = line.braces (braceDepth lines) := by
  simp [braceDepth]

/-- The numbers of the lines do not count. -/
theorem braceDepth_congr {lines lines' : List (Line × Nat)}
    (same : lines'.map Prod.fst = lines.map Prod.fst) : braceDepth lines' = braceDepth lines := by
  have counted (lines : List (Line × Nat)) :
      braceDepth lines = (lines.map Prod.fst).foldl (fun depth line => line.braces depth) 0 := by
    rw [List.foldl_map]
    rfl
  rw [counted, counted, same]

namespace Reading

variable {o : Options} {r next : Reading} {number : Nat} {line : Line} {raw full nickname : String}
  {role : Role} {kind : Option Kind} {id : StateId} {lines : List (Line × Nat)}

theorem obtain_nesting (ran : r.obtain o number raw role kind = .ok (id, next)) :
    next.draft.nesting = r.draft.nesting := by
  rcases obtain_eq_ok_iff.mp ran with ⟨-, rfl⟩ | ⟨place, -, -, -, rfl⟩ <;> rfl

/-- Whether it is bound or in conflict, a nickname does not move anything. -/
theorem introduce_nesting (r : Reading) (number : Nat) (full nickname : String) :
    (r.introduce number full nickname).2.draft.nesting = r.draft.nesting := by
  obtain ⟨-, result⟩ | ⟨-, result⟩ | ⟨existing, -, -, result⟩ :=
    r.introduce_cases number full nickname <;> rw [result] <;> rfl

/-- Where a line leads. One that opens a brace leads one scope in; a closing brace leads one scope out, but not
out of the diagram; any other line stays where it is. -/
def Turns (line : Line) (r next : Reading) : Prop :=
  match line with
  | .composite .. => ∃ id, next.draft.nesting.outward = .state id :: r.draft.nesting.outward
  | .close => next.draft.nesting.outward =
      if 1 < r.draft.nesting.outward.length then r.draft.nesting.outward.tail
      else r.draft.nesting.outward
  | _ => next.draft.nesting.outward = r.draft.nesting.outward

theorem step_turns (ran : r.step o number line = .ok next) : Turns line r next := by
  cases step_reads ran with
  | @composite name id between obtained =>
    refine ⟨id, ?_⟩
    rw [← obtain_nesting obtained]
    exact Nesting.outward_enter _ _
  | @compositeAliased name nickname id between obtained =>
    refine ⟨id, ?_⟩
    rw [← r.introduce_nesting number name nickname, ← obtain_nesting obtained]
    exact Nesting.outward_enter _ _
  | close => exact r.draft.nesting.outward_leave
  | aliased agrees obtained =>
    exact congrArg Nesting.outward ((obtain_nesting obtained).trans (r.introduce_nesting number _ _))
  | refused => exact congrArg Nesting.outward (r.introduce_nesting number _ _)
  | stereotyped obtained | simple obtained | described obtained =>
    exact congrArg Nesting.outward (obtain_nesting obtained :)
  | transition obtainedSource obtainedTarget =>
    exact congrArg Nesting.outward
      ((obtain_nesting obtainedTarget).trans (obtain_nesting obtainedSource) :)
  | content | unresolved | ignored => rfl

/-- The open composite states count the open braces. -/
theorem step_depth (ran : r.step o number line = .ok next) :
    next.draft.nesting.depth = line.braces r.draft.nesting.depth := by
  have turns := step_turns ran
  have before := r.draft.nesting.length_outward
  have after := next.draft.nesting.length_outward
  cases line with
  | composite =>
    obtain ⟨id, entered⟩ := turns
    rw [entered, List.length_cons] at after
    simp only [Line.braces]
    omega
  | close =>
    simp only [Turns] at turns
    rw [turns] at after
    simp only [Line.braces]
    split at after
    · rw [List.length_tail] at after
      omega
    · omega
  | aliased | stereotyped | simple | transition | content | ignored =>
    have stayed : next.draft.nesting.outward = r.draft.nesting.outward := turns
    rw [stayed] at after
    simp only [Line.braces]
    omega

theorem run_depth {startingId : StateId} (ran : run o (start startingId) lines = .ok r) :
    r.draft.nesting.depth = braceDepth lines := by
  induction lines using List.reverseRecOn generalizing r with
  | nil =>
    cases ran
    rfl
  | append_singleton front last ih =>
    obtain ⟨line, number⟩ := last
    rw [run_concat] at ran
    obtain ⟨before, ranFront, stepped⟩ := bind_eq_ok_iff.mp ran
    rw [braceDepth_concat, step_depth stepped, ih ranFront]

/-- Inside the diagram there are only states that exist. -/
theorem Rooted.exists_outward (rooted : r.Rooted) :
    ∃ inner, r.draft.nesting.outward = inner ++ [.root] ∧
      ∀ scope ∈ inner, ∃ s ∈ r.draft.registry.states, scope = .state s.id := by
  refine ⟨_, rfl, ?_⟩
  intro scope inside
  obtain ⟨id, opened, rfl⟩ := List.mem_map.mp inside
  obtain ⟨s, member, rfl⟩ := rooted.open_known id opened
  exact ⟨s, member, rfl⟩

end Reading

/-- After any lines that were read, the scopes are states that exist, from the innermost one outward, and the
diagram around all of them. There are as many states among them as braces are open on the lines, so the lines
alone tell how deep they lead: whatever the options and the first number are, the same lines lead equally
deep. -/
theorem open_scopes_counted {o : Options} {startingId : StateId} {lines : List (Line × Nat)} {r : Reading}
    (ran : Reading.run o (.start startingId) lines = .ok r) :
    (∃ inner, r.draft.nesting.outward = inner ++ [.root] ∧
      ∀ scope ∈ inner, ∃ s ∈ r.draft.registry.states, scope = .state s.id) ∧
    r.draft.nesting.outward.length = r.draft.nesting.depth + 1 ∧
    r.draft.nesting.depth = braceDepth lines ∧
    ∀ (o' : Options) (startingId' : StateId) (lines' : List (Line × Nat)) (r' : Reading),
      lines'.map Prod.fst = lines.map Prod.fst →
      Reading.run o' (.start startingId') lines' = .ok r' →
      r'.draft.nesting.depth = r.draft.nesting.depth := by
  have rooted := (Reading.run_moves ran).rooted (Reading.start_rooted startingId)
  refine ⟨rooted.exists_outward, r.draft.nesting.length_outward, Reading.run_depth ran, ?_⟩
  intro o' startingId' lines' r' same ran'
  rw [Reading.run_depth ran', Reading.run_depth ran, braceDepth_congr same]

/-- A brace too many, a composite state whose nickname is in conflict, and a state that is opened again inside
itself. -/
def reentered : String :=
  "\x7d\nstate \"A\" as X \x7b\nstate \"B\" as X \x7b\nstate A \x7b\n\x7d\nB --> C"

theorem open_scopes_counted_reentered :
    ∃ r, Reading.run { identity := .lexical } (.start 6) (numberedLines reentered) = .ok r ∧
      r.diagnostics.map (·.line) = [3] ∧
      r.draft.nesting.outward = [.state 8, .state 7, .root] ∧
      (∃ inner, r.draft.nesting.outward = inner ++ [.root] ∧
        ∀ scope ∈ inner, ∃ s ∈ r.draft.registry.states, scope = .state s.id) ∧
      braceDepth (numberedLines reentered) = 2 ∧
      ∀ (o : Options) (startingId : StateId) (r' : Reading),
        Reading.run o (.start startingId) (numberedLines reentered) = .ok r' →
        r'.draft.nesting.depth = 2 := by
  obtain ⟨r, ran, reported, surrounding⟩ : ∃ r,
      Reading.run { identity := .lexical } (.start 6) (numberedLines reentered) = .ok r ∧
      r.diagnostics.map (·.line) = [3] ∧ r.draft.nesting.outward = [.state 8, .state 7, .root] :=
    ⟨_, by cbv, by cbv, by cbv⟩
  obtain ⟨inside, above, counted, same⟩ := open_scopes_counted ran
  have depth : r.draft.nesting.depth = 2 := by simpa [surrounding] using above.symm
  refine ⟨r, ran, reported, surrounding, inside, counted.symm.trans depth, ?_⟩
  intro o startingId r' ran'
  exact (same o startingId _ r' rfl ran').trans depth

end Statechart
