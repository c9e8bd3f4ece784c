import LineScript.Proofs.Lockstep
import LineScript.Proofs.Nesting
import LineScript.Proofs.Wording
import Mathlib.Data.Nat.Find

/-!
# The line that is executed next

From one statement to the next a machine may look at any number of lines: blank ones, lines of
blocks that are not entered, and the line at which the current block ends, which it looks at twice.
What comes of this can be said without the machine. The next line to be executed is the first one
from the cursor on that is not blank and not deeper than the current block, and the indentation of
every line up to there is checked on the way.

`Machine.reaches_line` passes over the lines before, by induction on their number; neither the depth
nor anything else changes there. The depth is lowered once at most, at the line that is executed
(`Machine.executesNext_of_line`).
-/

namespace LineScript

open Text

/-! ### Lines that stop the machine -/

/-- A line that is not blank and at most as deep as a block. -/
def Exposed (depth : Nat) (line : Text) : Prop := allBlank line = false ∧ depthOf line ≤ depth

/-- A line that is not blank and badly indented. -/
def Misplaced (unit : Nat) (line : Text) : Prop :=
  allBlank line = false ∧ ¬WellIndented unit line

/-- The line `j` is the first one from the line `i` on that has a property. -/
def Program.FirstFrom (p : Program) (P : Text → Prop) (i j : Nat) : Prop :=
  i ≤ j ∧ (∃ line ∈ p.line? j, P line) ∧ ∀ k < j, i ≤ k → ∀ line ∈ p.line? k, ¬P line

instance (depth : Nat) : DecidablePred (Exposed depth) := fun line =>
  inferInstanceAs (Decidable (allBlank line = false ∧ depthOf line ≤ depth))

instance (unit : Nat) : DecidablePred (Misplaced unit) := fun line =>
  inferInstanceAs (Decidable (allBlank line = false ∧ ¬WellIndented unit line))

instance (p : Program) (P : Text → Prop) [DecidablePred P] (i j : Nat) :
    Decidable (p.FirstFrom P i j) :=
  inferInstanceAs (Decidable (i ≤ j ∧ _))

theorem Program.FirstFrom.lt_size {p : Program} {P : Text → Prop} {i j : Nat}
    (h : p.FirstFrom P i j) : j < p.size := by
  obtain ⟨-, ⟨line, hline, -⟩, -⟩ := h
  exact (Array.getElem?_eq_some_iff.mp hline).1

/-- There is a first line with a property as soon as there is one. -/
theorem Program.exists_firstFrom {p : Program} {P : Text → Prop} {i k : Nat} {line : Text}
    (hle : i ≤ k) (hline : p.line? k = some line) (hP : P line) : ∃ j ≤ k, p.FirstFrom P i j := by
  classical
  have hex : ∃ j, i ≤ j ∧ ∃ line, p.line? j = some line ∧ P line := ⟨k, hle, line, hline, hP⟩
  obtain ⟨hfirst, hfound⟩ := Nat.find_spec hex
  refine ⟨Nat.find hex, Nat.find_le ⟨hle, line, hline, hP⟩, hfirst, hfound, ?_⟩
  intro j hlt hij line' hline' hP'
  exact Nat.find_min hex hlt ⟨hij, line', hline', hP'⟩

/-- Before the first line with a property there is none. -/
theorem Program.not_of_lt_firstFrom {p : Program} {P : Text → Prop} {i j k : Nat} {line : Text}
    (h : ∀ j', p.FirstFrom P i j' → j ≤ j') (hle : i ≤ k) (hlt : k < j)
    (hline : p.line? k = some line) : ¬P line := by
  intro hP
  obtain ⟨j', hj', hfirst⟩ := exists_firstFrom hle hline hP
  have := h j' hfirst
  omega

/-! ### What is seen of a line -/

section View

variable {unit depth : Nat} {line : Text}

/-- A badly indented line is refused, however deep it is. -/
theorem viewLine_of_misplaced (h : Misplaced unit line) (depth : Nat) :
    ∃ cause, indentFailure? unit line = some cause ∧
      viewLine unit depth line = .faulty cause := by
  obtain ⟨hblank, hindent⟩ := h
  obtain ⟨cause, hcause⟩ :=
    Option.ne_none_iff_exists'.mp (mt (indentFailure?_eq_none_iff hblank).mp hindent)
  refine ⟨cause, hcause, ?_⟩
  simp [viewLine, hblank, hcause]

/-- A line that is neither badly indented nor within reach is passed over. -/
theorem viewLine_of_passed (hexposed : ¬Exposed depth line) (hmisplaced : ¬Misplaced unit line) :
    viewLine unit depth line = .pass := by
  by_cases hblank : allBlank line = true
  · rw [viewLine, if_pos hblank]
  · rw [Bool.not_eq_true] at hblank
    have hdeep : depth < depthOf line := by simpa [Exposed, hblank] using hexposed
    have hindent : WellIndented unit line := by simpa [Misplaced, hblank] using hmisplaced
    simp [viewLine, hblank, (indentFailure?_eq_none_iff hblank).mpr hindent, hdeep,
      Nat.not_lt.mpr hdeep.le]

theorem viewLine_of_wellIndented (hblank : allBlank line = false)
    (hindent : WellIndented unit line) (hle : depthOf line ≤ depth) :
    viewLine unit depth line = if depthOf line < depth then .shallower (depthOf line)
      else .here (line.drop (depthOf line)) := by
  simp [viewLine, hblank, (indentFailure?_eq_none_iff hblank).mpr hindent, Nat.not_lt.mpr hle]

end View

namespace Machine

variable {m : Machine} {s : State} {line : Text} {i j : Nat}

theorem step_of_line (hline : m.program.line? s.line = some line) :
    m.step s = m.react s (viewLine m.unit s.depth line) := by
  rw [step_eq_react, view, hline]

/-! ### Passing over lines -/

/-- The machine comes to a line if nothing before it stops it on the way. -/
theorem reaches_line (hle : s.line ≤ j) (hj : j ≤ m.program.size)
    (hpassed : ∀ k, s.line ≤ k → k < j → ∀ line, m.program.line? k = some line →
      ¬Exposed s.depth line ∧ ¬Misplaced m.unit line) : m.Reaches s { s with line := j } := by
  induction j, hle using Nat.le_induction with
  | base => exact .refl
  | succ j hle ih =>
    obtain ⟨line, hline⟩ : ∃ line, m.program.line? j = some line :=
      ⟨_, Array.getElem?_eq_getElem hj⟩
    obtain ⟨hexposed, hmisplaced⟩ := hpassed j hle (Nat.lt_succ_self j) line hline
    have hbefore : m.Reaches s { s with line := j } :=
      ih (Nat.le_of_succ_le hj) fun k hk hkj => hpassed k hk (Nat.lt_succ_of_lt hkj)
    have hat : m.program.line? ({ s with line := j } : State).line = some line := hline
    refine hbefore.tail ?_
    rw [step_of_line hat, viewLine_of_passed hexposed hmisplaced]
    rfl

/-! ### Executing a line -/

/-- From a state, the machine executes a line before it has executed, written or assigned anything
else, with the line's own depth for that of the current block. -/
def ExecutesNext (m : Machine) (s : State) (i : Nat) : Prop :=
  ∃ line t, m.program.line? i = some line ∧ m.Reaches s t ∧ t.line = i ∧ t.depth = depthOf line ∧
    t.world = s.world ∧ t.journal.dispatches = s.journal.dispatches ∧
    m.step t = m.dispatch t (line.drop (depthOf line)) ∧
    ∀ statement, Statement.parse (line.drop (depthOf line)) = .ok statement →
      (m.step t).state.journal.dispatches =
        s.journal.dispatches ++ [(i + 1, depthOf line, statement)]

/-- A line is executed next also from a state from which the machine comes here without executing
anything. -/
theorem ExecutesNext.of_reaches {s₁ : State} (h : m.ExecutesNext s₁ i) (hreaches : m.Reaches s s₁)
    (hworld : s₁.world = s.world) (hnothing : s₁.journal.dispatches = s.journal.dispatches) :
    m.ExecutesNext s i := by
  obtain ⟨line, t, hline, ht, hat, hdepth, hsame, hnone, hstep, hnoted⟩ := h
  rw [hnothing] at hnone hnoted
  exact ⟨line, t, hline, hreaches.trans ht, hat, hdepth, hsame.trans hworld, hnone, hstep, hnoted⟩

/-- A well indented line as deep as the current block is executed at once. -/
theorem executesNext_of_depth (hline : m.program.line? s.line = some line)
    (hblank : allBlank line = false) (hindent : WellIndented m.unit line)
    (hdepth : depthOf line = s.depth) : m.ExecutesNext s s.line := by
  have hstep : m.step s = m.dispatch s (line.drop (depthOf line)) := by
    rw [step_of_line hline, viewLine_of_wellIndented hblank hindent hdepth.le, hdepth,
      if_neg (Nat.lt_irrefl _)]
    rfl
  refine ⟨line, s, hline, .refl, rfl, hdepth.symm, rfl, rfl, hstep, fun statement hparse => ?_⟩
  have hat : m.statementAt? s = some statement :=
    statementAt?_eq_some_iff.mpr ⟨line, hline, hblank, hindent, hdepth, hdepth ▸ hparse⟩
  rw [dispatches_of_statementAt? hat, hdepth]

/-- A well indented line that ends the current block, or belongs to it, is executed next. -/
theorem executesNext_of_line (hline : m.program.line? s.line = some line)
    (hblank : allBlank line = false) (hindent : WellIndented m.unit line)
    (hle : depthOf line ≤ s.depth) : m.ExecutesNext s s.line := by
  obtain hless | hdepth := Nat.lt_or_eq_of_le hle
  · -- The block is left first, and the line is then looked at again.
    let s₁ := { s with depth := depthOf line }.note (.left s.depth (depthOf line))
    have hleft : m.step s = .running s₁ := by
      rw [step_of_line hline, viewLine_of_wellIndented hblank hindent hle, if_pos hless]
      rfl
    have hat : m.program.line? s₁.line = some line := hline
    refine (executesNext_of_depth hat hblank hindent rfl).of_reaches (.single hleft) rfl ?_
    exact (s.journal.dispatches_push _).trans (List.append_nil _)
  · exact executesNext_of_depth hline hblank hindent hdepth

/-! ### Jumps -/

/-- A line to which a jump leads is not deeper than the current block, unless it is blank. -/
theorem depthOf_le_of_jumpIndex {depth : Nat} {target : Int}
    (h : m.jumpIndex depth target = .ok i) (hline : m.program.line? i = some line)
    (hblank : allBlank line = false) : depthOf line ≤ depth := by
  rw [jumpIndex] at h
  split at h
  · cases h
  · rename_i line' hline'
    split_ifs at hline' h with hlow hdeep
    obtain rfl := Except.ok.inj h
    obtain rfl := Option.some.inj (hline.symm.trans hline')
    simpa [hblank] using hdeep

/-- A jump that goes on leads to a line that is let through, and leaves the depth alone. -/
theorem jumpIndex_of_step {s' : State} {statement : Statement} {expression : Text}
    (hat : m.statementAt? s = some statement) (haction : statement.action = .jump expression)
    (hstep : m.step s = .running s') :
    s'.depth = s.depth ∧ ∃ target, m.jumpIndex s.depth target = .ok s'.line := by
  have hjump {w : World} {turn : Turn}
      (hexec : s.world.execute m.settings statement = (w, .ok turn)) :
      ∃ target, turn = .jump target := by
    have hturn : (s.world.execute m.settings statement).2 = .ok turn := by rw [hexec]
    rw [World.execute_eq_perform hturn, haction] at hturn
    obtain ⟨-, hkind⟩ | ⟨-, _, hbranch, -⟩ | ⟨_, value, hturn, -⟩ := World.perform_turn hturn
    · exact absurd rfl hkind
    · cases hbranch
    · exact ⟨_, hturn⟩
  have hcarried := carried hat
  rw [hstep] at hcarried
  cases hcarried with
  | next hexec _ _ =>
    obtain ⟨_, hturn⟩ := hjump hexec
    cases hturn
  | enters hexec _ _ =>
    obtain ⟨_, hturn⟩ := hjump hexec
    cases hturn
  | jumps _ hindex hdepth => exact ⟨hdepth, _, hindex⟩

/-! ### The next line -/

/-- The machine stops at a badly indented line if nothing before it stops it. -/
theorem halts_of_misplaced (hfirst : m.program.FirstFrom (Misplaced m.unit) s.line j)
    (hbefore : ∀ i, m.program.FirstFrom (Exposed s.depth) s.line i → j ≤ i) :
    ∃ line cause, m.program.line? j = some line ∧ indentFailure? m.unit line = some cause ∧
      m.Halts s (.failed { s with line := j } cause) := by
  have hlt := hfirst.lt_size
  obtain ⟨hle, ⟨line, hline, hbad⟩, hnone⟩ := hfirst
  have hreaches : m.Reaches s { s with line := j } :=
    reaches_line hle hlt.le fun k hk hkj line' hline' =>
      ⟨Program.not_of_lt_firstFrom hbefore hk hkj hline', hnone k hkj hk line' hline'⟩
  obtain ⟨cause, hcause, hview⟩ := viewLine_of_misplaced hbad s.depth
  have hat : m.program.line? ({ s with line := j } : State).line = some line := hline
  refine ⟨line, cause, hline, hcause, hreaches.halts (.failed ?_)⟩
  rw [step_of_line hat, hview]
  rfl

/-- A line that ends the current block, or belongs to it, is executed next if nothing before it
stops the machine and it is well indented itself. -/
theorem executesNext_of_exposed (hfirst : m.program.FirstFrom (Exposed s.depth) s.line i)
    (hbefore : ∀ j, m.program.FirstFrom (Misplaced m.unit) s.line j → i < j) :
    m.ExecutesNext s i := by
  have hlt := hfirst.lt_size
  obtain ⟨hle, ⟨line, hline, hblank, hdepth⟩, hnone⟩ := hfirst
  have hreaches : m.Reaches s { s with line := i } :=
    reaches_line hle hlt.le fun k hk hki line' hline' =>
      ⟨hnone k hki hk line' hline',
        Program.not_of_lt_firstFrom hbefore hk (Nat.lt_succ_of_lt hki) hline'⟩
  have hindent : WellIndented m.unit line := by
    have hplaced : ¬Misplaced m.unit line :=
      Program.not_of_lt_firstFrom hbefore hle (Nat.lt_succ_self i) hline
    simpa [Misplaced, hblank] using hplaced
  have hat : m.program.line? ({ s with line := i } : State).line = some line := hline
  exact (executesNext_of_line hat hblank hindent hdepth).of_reaches hreaches rfl rfl

/-- The run ends if nothing stops the machine before the end of the program. -/
theorem halts_of_passed
    (hexposed : ∀ i, ¬m.program.FirstFrom (Exposed s.depth) s.line i)
    (hmisplaced : ∀ j, ¬m.program.FirstFrom (Misplaced m.unit) s.line j) :
    m.Halts s (.finished { s with line := max s.line m.program.size }) := by
  have hend {t : State} (ht : m.program.size ≤ t.line) : m.step t = .finished t := by
    rw [step, Program.line?, Array.getElem?_eq_none ht]
  obtain hle | hle := Nat.le_total s.line m.program.size
  · rw [Nat.max_eq_right hle]
    have hreaches : m.Reaches s { s with line := m.program.size } :=
      reaches_line hle (Nat.le_refl _) fun k hk hkj line hline =>
        ⟨Program.not_of_lt_firstFrom (fun i hi => absurd hi (hexposed i)) hk hkj hline,
          Program.not_of_lt_firstFrom (fun j hj => absurd hj (hmisplaced j)) hk hkj hline⟩
    exact hreaches.halts (.finished (hend (Nat.le_refl _)))
  · rw [Nat.max_eq_left hle]
    exact .finished (hend hle)

/-- **Which line is executed next.** Take the first line from the cursor on that is not blank and
not deeper than the current block.

* If a line up to there, or up to the end when there is no such line, is badly indented, the machine
  stops at the first of these, before it has done anything. It does so with a fault of form, unless
  the indent unit is past the digit limit and would have to be shown.
* Otherwise that line is executed next, with its own depth for that of the current block.
* If there is no such line, the run ends.

In particular a jump that is let through is followed by the execution of the line it leads to, if
that is not blank and well indented. -/
theorem next_line (m : Machine) (s : State) :
    (∀ j, m.program.FirstFrom (Misplaced m.unit) s.line j →
      (∀ i, m.program.FirstFrom (Exposed s.depth) s.line i → j ≤ i) →
      ∃ line cause, m.program.line? j = some line ∧
        m.Halts s (.failed { s with line := j } cause) ∧
        (Unworded m.unit line ∧ cause = .digitLimit ∨ ¬Unworded m.unit line ∧
          ∃ f, cause = .script f ∧ f.category = .invalidSyntax)) ∧
    (∀ i, m.program.FirstFrom (Exposed s.depth) s.line i →
      (∀ j, m.program.FirstFrom (Misplaced m.unit) s.line j → i < j) → m.ExecutesNext s i) ∧
    ((∀ i, ¬m.program.FirstFrom (Exposed s.depth) s.line i) →
      (∀ j, ¬m.program.FirstFrom (Misplaced m.unit) s.line j) →
      m.Halts s (.finished { s with line := max s.line m.program.size })) ∧
    ∀ statement expression s' line, m.statementAt? s = some statement →
      statement.action = .jump expression → m.step s = .running s' →
      m.program.line? s'.line = some line → allBlank line = false → WellIndented m.unit line →
      m.ExecutesNext s' s'.line := by
  refine ⟨fun j hfirst hbefore => ?_, fun i => executesNext_of_exposed, halts_of_passed, ?_⟩
  · obtain ⟨line, cause, hline, hcause, hhalts⟩ := halts_of_misplaced hfirst hbefore
    refine ⟨line, cause, hline, hhalts, (indentFailure?_eq_some hcause).imp_right ?_⟩
    rintro ⟨hworded, f, hf, hcategory, -⟩
    exact ⟨hworded, f, hf, hcategory⟩
  · intro statement expression s' line hat haction hstep hline hblank hindent
    obtain ⟨hdepth, target, hindex⟩ := jumpIndex_of_step hat haction hstep
    refine executesNext_of_line hline hblank hindent ?_
    rw [hdepth]
    exact depthOf_le_of_jumpIndex hindex hline hblank

/-- A program in which the second line is badly indented: the machine stops there if it comes there,
passes over the third and the fourth line, goes to the last one by a jump, and ends behind it. -/
theorem next_line_indented :
    let m : Machine :=
      ⟨.ofLines "" [
        ['g', 'o', 't', 'o', ' ', '5'],
        [' ', '?'],
        [' ', ' ', 'p', 'r', 'i', 'n', 't', ' ', '1'],
        [],
        ['p', 'r', 'i', 'n', 't', ' ', '2']],
        2, by decide, []⟩
    (∃ f, f.category = .invalidSyntax ∧
      m.Halts { line := 1 } (.failed { line := 1 } (.script f))) ∧
    m.ExecutesNext { line := 2 } 4 ∧ m.Halts { line := 5 } (.finished { line := 5 }) ∧
    ∃ s', m.step {} = .running s' ∧ s'.line = 4 ∧ m.ExecutesNext s' s'.line := by
  intro m
  obtain ⟨hfails, -⟩ := next_line m { line := 1 }
  obtain ⟨-, hexecutes, -⟩ := next_line m { line := 2 }
  obtain ⟨-, -, hends, -⟩ := next_line m { line := 5 }
  obtain ⟨-, -, -, hjumps⟩ := next_line m {}
  have hstep : m.step {} = .running (m.step {}).state := by decide +kernel
  have hat : m.statementAt? {} = some ⟨['g', 'o', 't', 'o', ' ', '5'], .jump ['5']⟩ := by
    decide +kernel
  have hline : m.program.line? (m.step {}).state.line =
      some ['p', 'r', 'i', 'n', 't', ' ', '2'] := by
    decide +kernel
  have hbehind {P : Text → Prop} (j : Nat) : ¬m.program.FirstFrom P 5 j := fun hj =>
    absurd (Nat.lt_of_le_of_lt hj.1 hj.lt_size) (by decide +kernel)
  have hshort (line : Text) : ¬Unworded m.unit line := fun h =>
    absurd h.limit_le (Nat.not_le.mpr (Numeral.lt_limit_of_lt_ten (by decide)))
  obtain ⟨line, _, -, hhalts, hcause⟩ := hfails 1 (by decide +kernel) fun i hi => hi.1
  obtain ⟨-, f, rfl, hcategory⟩ := hcause.resolve_left fun h => hshort line h.1
  refine ⟨⟨f, hcategory, hhalts⟩, hexecutes 4 (by decide +kernel) fun j hj => ?_,
    hends hbehind hbehind, _, hstep, by decide +kernel,
    hjumps _ _ _ _ hat rfl hstep hline rfl (by decide +kernel)⟩
  have hnone : ∀ j ≤ 4, ¬m.program.FirstFrom (Misplaced m.unit) 2 j := by decide +kernel
  exact Nat.lt_of_not_le fun hle => hnone j hle hj

/-- A line that starts with one space, looked at with an indent unit past the digit limit. -/
theorem halts_of_limit_le {settings : Settings} (h : 10 ^ Numeral.digitLimit ≤ settings.unit) :
    let m : Machine := ⟨.ofLines "" [[' ', 'p', 'r', 'i', 'n', 't', ' ', '1']], settings⟩
    m.program.FirstFrom (Misplaced m.unit) 0 0 ∧ m.Halts {} (.failed {} .digitLimit) := by
  let line : Text := [' ', 'p', 'r', 'i', 'n', 't', ' ', '1']
  have hline : (Program.ofLines "" [line]).line? 0 = some line := by decide +kernel
  have hunworded : Unworded settings.unit line := .of_limit_le h (by decide) (by decide) rfl
  have hbad : Misplaced settings.unit line :=
    ⟨rfl, fun hindent => hunworded.not_dvd_depth hindent.dvd_depth⟩
  intro m
  exact ⟨⟨Nat.le_refl 0, ⟨line, hline, hbad⟩, nofun⟩,
    .failed (step_of_unworded hline rfl hunworded)⟩

/-- With an indent unit of one digit more than the limit, a line that starts with one space is badly
indented, and yet the machine stops there with no fault. -/
theorem next_line_unworded :
    let m : Machine :=
      ⟨.ofLines "" [[' ', 'p', 'r', 'i', 'n', 't', ' ', '1']],
        10 ^ Numeral.digitLimit, Nat.pow_pos (by decide), []⟩
    m.program.FirstFrom (Misplaced m.unit) 0 0 ∧ m.Halts {} (.failed {} .digitLimit) ∧
      ∀ f, ¬m.Halts {} (.failed {} (.script f)) := by
  intro m
  obtain ⟨hfirst, hhalts⟩ := @halts_of_limit_le m.settings (Nat.le_refl _)
  exact ⟨hfirst, hhalts, fun f hf => nomatch hhalts.unique hf⟩

end Machine

end LineScript
