import LineScript.Machine
import Mathlib.Data.List.TakeWhile
import Mathlib.Logic.Relation

/-!
# Steps and runs of a machine

What is said about runs rests on three descriptions, so that the step function is opened only here.

* `Machine.Stepped` lists what one step can come to, with the conditions under which it does; every
  step is described by it (`Machine.stepped`). A line that holds a statement is handed to
  `Machine.dispatch`, and `Machine.Dispatched` lists what can come of that.
* `Machine.Reaches` is the iteration of steps that go on, and `Machine.Halts` relates a state to the
  outcome in which its run ends.
* `WellIndented` is the shape of lines that a machine does not refuse.
-/

namespace LineScript

open Text

/-! ### Indentation -/

theorem drop_depthOf (line : Text) : line.drop (depthOf line) = line.dropWhile (· == ' ') := by
  induction line with
  | nil => rfl
  | cons c line ih =>
    by_cases hc : c == ' '
    · rw [depthOf, List.takeWhile_cons, if_pos hc, List.length_cons, List.drop_succ_cons,
        List.dropWhile_cons, if_pos hc]
      exact ih
    · rw [depthOf, List.takeWhile_cons, if_neg hc, List.dropWhile_cons, if_neg hc]
      rfl

/-- A line that is not blank has a character behind the spaces it starts with. -/
theorem exists_drop_depthOf {line : Text} (h : allBlank line = false) :
    ∃ c rest, line.drop (depthOf line) = c :: rest := by
  apply List.exists_cons_of_ne_nil
  intro hnil
  rw [drop_depthOf, List.dropWhile_eq_nil_iff] at hnil
  have hblank : allBlank line = true := by
    refine List.all_eq_true.mpr fun c hc => ?_
    obtain rfl := beq_iff_eq.mp (hnil c hc)
    decide +kernel
  rw [h] at hblank
  cases hblank

theorem depthOf_lt_length {line : Text} (h : allBlank line = false) :
    depthOf line < line.length := by
  obtain ⟨c, rest, hdrop⟩ := exists_drop_depthOf h
  have hlength := congrArg List.length hdrop
  rw [List.length_drop, List.length_cons] at hlength
  omega

/-- The spaces a line starts with come in whole units, and what follows them is not blank. -/
structure WellIndented (unit : Nat) (line : Text) : Prop where
  dvd_depth : unit ∣ depthOf line
  head_not_isBlank : ∃ c ∈ (line.drop (depthOf line)).head?, isBlank c = false

theorem wellIndented_iff {unit : Nat} {line : Text} :
    WellIndented unit line ↔
      unit ∣ depthOf line ∧ (line.drop (depthOf line)).head?.any (!isBlank ·) = true := by
  rw [Option.any_eq_true]
  constructor
  · rintro ⟨hdvd, c, hhead, hc⟩
    exact ⟨hdvd, c, hhead, by rw [hc]; rfl⟩
  · rintro ⟨hdvd, c, hhead, hc⟩
    exact ⟨hdvd, c, hhead, by simpa using hc⟩

-- Only the one character in question is tested, and not whether there is any such character.
instance (unit : Nat) (line : Text) : Decidable (WellIndented unit line) :=
  decidable_of_iff' _ wellIndented_iff

/-- The kind of the statement on a line, if it holds one. -/
def kindOf? (line : Text) : Option Kind :=
  match Statement.parse (line.drop (depthOf line)) with
  | .ok statement => some statement.kind
  | .error _ => none

theorem kindOf?_of_parse {line : Text} {statement : Statement}
    (h : Statement.parse (line.drop (depthOf line)) = .ok statement) :
    kindOf? line = some statement.kind := by
  rw [kindOf?, h]

/-- The failure at a line that is not indented in whole units of spaces. -/
def indentFailure? (unit : Nat) (line : Text) : Option Failure :=
  if (line.drop (depthOf line)).head?.any isBlank then some (.script .blankAfterIndent)
  else if depthOf line % unit ≠ 0 then
    some (.showing (.unevenDepth (depthOf line)) (Numeral.decimal? unit))
  else none

theorem indentFailure?_eq_none_iff {unit : Nat} {line : Text} (h : allBlank line = false) :
    indentFailure? unit line = none ↔ WellIndented unit line := by
  obtain ⟨c, rest, hdrop⟩ := exists_drop_depthOf h
  rw [indentFailure?, hdrop]
  show (if isBlank c = true then _ else _) = none ↔ _
  constructor
  · intro hnone
    split at hnone
    · cases hnone
    · rename_i hc
      split at hnone
      · cases hnone
      · rename_i hmod
        refine ⟨Nat.dvd_of_mod_eq_zero (Decidable.not_not.mp hmod), c, ?_, by simpa using hc⟩
        rw [hdrop]
        rfl
  · rintro ⟨hdvd, d, hhead, hd⟩
    rw [hdrop] at hhead
    obtain rfl : c = d := Option.some.inj hhead
    rw [if_neg (by rw [hd]; exact Bool.false_ne_true),
      if_neg (Decidable.not_not.mpr (Nat.mod_eq_zero_of_dvd hdvd))]

namespace Machine

variable {m : Machine} {s s' t : State} {o : Outcome}

/-! ### What a step comes to -/

/-- What can come of a step from a state. -/
inductive Stepped (m : Machine) (s : State) : Outcome → Prop where
  /-- There is no line left. -/
  | finished : m.program.line? s.line = none → Stepped m s (.finished s)
  /-- The line is blank. -/
  | blank {line : Text} :
      m.program.line? s.line = some line → allBlank line = true → Stepped m s (.running s.advance)
  /-- The line is badly indented. -/
  | misplaced {line : Text} {cause : Failure} :
      m.program.line? s.line = some line → allBlank line = false →
      indentFailure? m.unit line = some cause → Stepped m s (.failed s cause)
  /-- The line is less deep than the current block, which it ends. -/
  | left {line : Text} :
      m.program.line? s.line = some line → allBlank line = false → WellIndented m.unit line →
      depthOf line < s.depth →
      Stepped m s (.running ({ s with depth := depthOf line }.note (.left s.depth (depthOf line))))
  /-- The line is deeper than the current block. -/
  | skipped {line : Text} :
      m.program.line? s.line = some line → allBlank line = false → WellIndented m.unit line →
      s.depth < depthOf line → Stepped m s (.running s.advance)
  /-- The line belongs to the current block and is executed. -/
  | dispatched {line : Text} {o : Outcome} :
      m.program.line? s.line = some line → allBlank line = false → WellIndented m.unit line →
      depthOf line = s.depth → o = m.dispatch s (line.drop s.depth) → Stepped m s o

/-- A visit, with the test of the indentation taken out. -/
private theorem visit_eq (m : Machine) (s : State) (line : Text) :
    m.visit s line =
      match indentFailure? m.unit line with
      | some cause => .failed s cause
      | none =>
        if depthOf line < s.depth then
          .running ({ s with depth := depthOf line }.note (.left s.depth (depthOf line)))
        else if s.depth < depthOf line then .running s.advance
        else m.dispatch s (line.drop (depthOf line)) := by
  rw [visit, indentFailure?]
  split
  · rfl
  · split <;> rfl

/-- Every step is described. -/
theorem stepped (m : Machine) (s : State) : m.Stepped s (m.step s) := by
  rw [step]
  cases hline : m.program.line? s.line with
  | none => exact .finished hline
  | some line =>
    dsimp only
    cases hblank : allBlank line with
    | true => exact .blank hline hblank
    | false =>
      rw [if_neg Bool.false_ne_true, visit_eq]
      cases hfault : indentFailure? m.unit line with
      | some cause => exact .misplaced hline hblank hfault
      | none =>
        have hindent := (indentFailure?_eq_none_iff hblank).mp hfault
        dsimp only
        by_cases hless : depthOf line < s.depth
        · rw [if_pos hless]
          exact .left hline hblank hindent hless
        · rw [if_neg hless]
          by_cases hmore : s.depth < depthOf line
          · rw [if_pos hmore]
            exact .skipped hline hblank hindent hmore
          · rw [if_neg hmore]
            have hdepth : depthOf line = s.depth := by omega
            exact .dispatched hline hblank hindent hdepth (by rw [hdepth])

theorem stepped_of_step (h : m.step s = o) : m.Stepped s o := h ▸ m.stepped s

/-- What can come of executing a line. -/
inductive Dispatched (m : Machine) (s : State) (text : Text) : Outcome → Prop where
  /-- The line holds no statement. -/
  | unrecognized {f : Fault} :
      Statement.parse text = .error f → Dispatched m s text (.failed s (.script f))
  /-- The statement fails. -/
  | failed {statement : Statement} {cause : Failure} :
      Statement.parse text = .ok statement →
      (m.execStatement s statement).result = .error cause →
      Dispatched m s text (.failed (m.execStatement s statement).state cause)
  /-- The statement succeeds, and the cursor moves to its target or to the next line. -/
  | completed {statement : Statement} {target : Option Nat} :
      Statement.parse text = .ok statement →
      (m.execStatement s statement).result = .ok target →
      Dispatched m s text (.running
        { (m.execStatement s statement).state.note (.completed
            (m.execStatement s statement).state.depth (target.map (· + 1))) with
          line := target.getD ((m.execStatement s statement).state.line + 1) })

/-- Every execution of a line is described. -/
theorem dispatched (m : Machine) (s : State) (text : Text) :
    m.Dispatched s text (m.dispatch s text) := by
  rw [dispatch]
  cases hparse : Statement.parse text with
  | error f => exact .unrecognized hparse
  | ok statement =>
    dsimp only
    cases hresult : (m.execStatement s statement).result with
    | error cause => exact .failed hparse hresult
    | ok target => exact .completed hparse hresult

/-! ### Runs -/

/-- The states that come after a state, itself included, as long as no step stops. -/
def Reaches (m : Machine) : State → State → Prop :=
  Relation.ReflTransGen fun s s' => m.step s = .running s'

/-- The run from a state ends in an outcome. -/
def Halts (m : Machine) (s : State) (o : Outcome) : Prop :=
  (∀ t, o ≠ .running t) ∧ ∃ n, m.run n s = o

theorem run_succ_of_running (h : m.step s = .running s') (n : Nat) :
    m.run (n + 1) s = m.run n s' := by
  rw [run, h]

theorem run_succ_of_stop (h : m.step s = o) (ho : ∀ t, o ≠ .running t) (n : Nat) :
    m.run (n + 1) s = o := by
  rw [run, h]
  cases o with
  | running t => exact absurd rfl (ho t)
  | finished t => rfl
  | failed t cause => rfl

theorem Halts.of_step (h : m.step s = o) (ho : ∀ t, o ≠ .running t) : m.Halts s o :=
  ⟨ho, 1, run_succ_of_stop h ho 0⟩

theorem Halts.finished (h : m.step s = .finished t) : m.Halts s (.finished t) :=
  .of_step h nofun

theorem Halts.failed {cause : Failure} (h : m.step s = .failed t cause) :
    m.Halts s (.failed t cause) :=
  .of_step h nofun

theorem Halts.of_running (hstep : m.step s = .running s') (h : m.Halts s' o) : m.Halts s o := by
  obtain ⟨ho, n, hn⟩ := h
  exact ⟨ho, n + 1, by rw [run_succ_of_running hstep, hn]⟩

/-- A run that ends does so with the step from some state that it reaches. -/
theorem Halts.exists_step (h : m.Halts s o) : ∃ t, m.Reaches s t ∧ m.step t = o := by
  obtain ⟨ho, n, hn⟩ := h
  induction n generalizing s with
  | zero => exact absurd hn.symm (ho s)
  | succ n ih =>
    cases hstep : m.step s with
    | running s' =>
      rw [run_succ_of_running hstep] at hn
      obtain ⟨t, hreach, ht⟩ := ih hn
      exact ⟨t, .head hstep hreach, ht⟩
    | finished s' =>
      rw [run_succ_of_stop hstep nofun] at hn
      exact ⟨s, .refl, hstep.trans hn⟩
    | failed s' cause =>
      rw [run_succ_of_stop hstep nofun] at hn
      exact ⟨s, .refl, hstep.trans hn⟩

/-- A run ends in one outcome only. -/
theorem Halts.unique {o' : Outcome} (h : m.Halts s o) (h' : m.Halts s o') : o = o' := by
  obtain ⟨ho, n, hn⟩ := h
  obtain ⟨ho', n', hn'⟩ := h'
  induction n generalizing s n' with
  | zero => exact absurd hn.symm (ho s)
  | succ n ih =>
    cases n' with
    | zero => exact absurd hn'.symm (ho' s)
    | succ n' =>
      cases hstep : m.step s with
      | running s' =>
        rw [run_succ_of_running hstep] at hn hn'
        exact ih hn n' hn'
      | finished s' =>
        rw [run_succ_of_stop hstep nofun] at hn hn'
        exact hn.symm.trans hn'
      | failed s' cause =>
        rw [run_succ_of_stop hstep nofun] at hn hn'
        exact hn.symm.trans hn'

theorem Reaches.halts (h : m.Reaches s t) (ht : m.Halts t o) : m.Halts s o := by
  induction h using Relation.ReflTransGen.head_induction_on with
  | refl => exact ht
  | head hstep _ ih => exact .of_running hstep ih

/-- What every step keeps, whether or not it goes on, holds of all states of a run. -/
theorem run_state_induction {P : State → Prop} (hstep : ∀ t, P t → P (m.step t).state) (hs : P s)
    (n : Nat) : P (m.run n s).state := by
  induction n generalizing s with
  | zero => exact hs
  | succ n ih =>
    have hnext := hstep s hs
    cases h : m.step s with
    | running s' =>
      rw [run_succ_of_running h]
      exact ih (by rwa [h] at hnext)
    | finished s' =>
      rw [run_succ_of_stop h nofun]
      rwa [h] at hnext
    | failed s' cause =>
      rw [run_succ_of_stop h nofun]
      rwa [h] at hnext

end Machine

end LineScript
