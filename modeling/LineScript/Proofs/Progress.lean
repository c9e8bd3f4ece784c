import LineScript.Proofs.Dispatch

/-!
# How long a run takes

A machine can only go on for ever by jumping back. Between two jumps back the cursor moves down the
program, and a line is looked at no more than twice on the way: once where it ends the current
block, and once more where it is executed or found to be at fault.

`Machine.looks` counts the lines a run looks at, and `Machine.backJumps` the jumps it makes to the
line of the jump itself or to one before it. The bound on the former by the latter comes from
`Machine.budget`, the number of looks that are left before the next jump back: every step takes one
from it (`Machine.budget_lt`), and only a jump back can fill it up again.
-/

namespace LineScript

open Text

namespace Machine

variable {m : Machine} {s s' t : State} {o : Outcome}

/-! ### Jumps back -/

/-- The index of the line to which the step from a state jumps, if it executes a jump. -/
def jumpTarget? (m : Machine) (s : State) : Option Nat := do
  let statement ← m.statementAt? s
  (m.execStatement s statement).result.toOption.join

/-- The step from a state jumps to its own line or to one before it. -/
def JumpsBack (m : Machine) (s : State) : Prop := ∃ target ∈ m.jumpTarget? s, target ≤ s.line

instance (m : Machine) (s : State) : Decidable (m.JumpsBack s) :=
  inferInstanceAs (Decidable (∃ target ∈ m.jumpTarget? s, target ≤ s.line))

/-- The number of times a line is looked at in a run of at most `n` steps. -/
def looks (m : Machine) : Nat → State → Nat
  | 0, _ => 0
  | n + 1, s =>
    match m.step s with
    | .running s' => m.looks n s' + 1
    | .failed _ _ => 1
    | .finished _ => 0

/-- The number of jumps back in a run of at most `n` steps. -/
def backJumps (m : Machine) : Nat → State → Nat
  | 0, _ => 0
  | n + 1, s =>
    match m.step s with
    | .running s' => m.backJumps n s' + if m.JumpsBack s then 1 else 0
    | _ => 0

theorem jumpTarget?_of_execute {statement : Statement} {w : World} {target : Int} {index : Nat}
    (hat : m.statementAt? s = some statement)
    (hexec : s.world.execute m.settings statement = (w, .ok (.jump target)))
    (hindex : m.jumpIndex s.depth target = .ok index) : m.jumpTarget? s = some index := by
  have hresult : (m.execStatement s statement).result = .ok (some index) := by
    rw [(m.execStatement_performs s statement).result, hexec]
    show m.follow s.depth (.jump target) = _
    rw [follow, hindex]
    rfl
  simp [jumpTarget?, hat, hresult, Except.toOption]

/-- A step that executes a jump stands at a line that holds one. -/
theorem exists_jump_of_jumpTarget? {target : Nat} (h : m.jumpTarget? s = some target) :
    ∃ line ∈ m.program.lines, kindOf? line = some .jump := by
  obtain ⟨statement, hat, hresult⟩ := Option.bind_eq_some_iff.mp h
  obtain ⟨line, hline, -, -, hdepth, hparse⟩ := statementAt?_eq_some_iff.mp hat
  refine ⟨line, Array.mem_of_getElem? hline, ?_⟩
  rw [← hdepth] at hparse
  rw [kindOf?_of_parse hparse]
  rw [(m.execStatement_performs s statement).result] at hresult
  cases hturn : (s.world.execute m.settings statement).2 with
  | error cause => simp [hturn, Except.bind, Except.toOption] at hresult
  | ok turn =>
    rw [hturn] at hresult
    rw [World.execute_eq_perform hturn] at hturn
    obtain ⟨rfl, -⟩ | ⟨rfl, -⟩ | ⟨_, _, -, haction, -⟩ := World.perform_turn hturn
    · simp [Except.bind, follow, Except.toOption] at hresult
    · simp [Except.bind, follow, Except.toOption] at hresult
    · simp [Statement.kind, haction, Action.kind]

/-! ### Where the cursor goes -/

/-- The line at the cursor ends the current block. -/
def Leaves (m : Machine) (s : State) : Prop :=
  ∃ line ∈ m.program.line? s.line, allBlank line = false ∧ depthOf line < s.depth

instance (m : Machine) (s : State) : Decidable (m.Leaves s) :=
  inferInstanceAs (Decidable (∃ line ∈ m.program.line? s.line, _))

/-- The ways in which the cursor moves in a step that goes on. -/
inductive Moved (m : Machine) (s s' : State) : Prop where
  /-- To the next line. -/
  | on : s'.line = s.line + 1 → Moved m s s'
  /-- To another line of the program. -/
  | jumped : m.jumpTarget? s = some s'.line → s'.line < m.program.size → Moved m s s'
  /-- Out of the current block, which a line ends only once. -/
  | left : m.Leaves s → s'.line = s.line → s'.depth < s.depth → ¬m.Leaves s' → Moved m s s'

theorem moved (h : m.step s = .running s') : m.Moved s s' := by
  cases hat : m.statementAt? s with
  | some statement =>
    have hcarried := carried hat
    rw [h] at hcarried
    cases hcarried with
    | next _ hline _ => exact .on hline
    | enters _ hline _ => exact .on hline
    | jumps hexec hindex _ =>
      exact .jumped (jumpTarget?_of_execute hat hexec hindex) (lt_size_of_jumpIndex hindex)
  | none =>
    have hpassed := passed hat
    rw [h] at hpassed
    cases hpassed with
    | skips _ _ => exact .on rfl
    | @leaves line hline hblank hless =>
      refine .left ⟨line, hline, hblank, hless⟩ rfl hless ?_
      rintro ⟨line', hline', -, hless'⟩
      obtain rfl : line = line' := Option.some.inj (hline.symm.trans hline')
      exact Nat.lt_irrefl _ hless'

/-- A step that does not end the run looks at a line of the program. -/
theorem lt_size_of_step (h : m.step s = o) (ho : ∀ t, o ≠ .finished t) :
    s.line < m.program.size := by
  cases hline : m.program.line? s.line with
  | none =>
    rw [step, hline] at h
    exact absurd h.symm (ho s)
  | some line => exact (Array.getElem?_eq_some_iff.mp hline).1

/-- Unless it jumps back, a step leads down the program, or up in depth at the same line. -/
theorem lex_of_step (h : m.step s = .running s') (hback : ¬m.JumpsBack s) :
    Prod.Lex (· < ·) (· < ·) (m.program.size - s'.line, s'.depth)
      (m.program.size - s.line, s.depth) := by
  have hlt := lt_size_of_step h nofun
  rw [Prod.lex_def]
  cases moved h with
  | on hline => exact .inl (by dsimp only; omega)
  | jumped htarget hsize =>
    have hforward : s.line < s'.line := Nat.lt_of_not_le fun hle => hback ⟨s'.line, htarget, hle⟩
    exact .inl (by dsimp only; omega)
  | left _ hline hdepth _ => exact .inr ⟨by dsimp only; omega, hdepth⟩

/-! ### The looks that are left -/

/-- The number of looks that are left before the next jump back: two for every line from the cursor
on, the first of which is saved where the line at the cursor does not end the current block. -/
def budget (m : Machine) (s : State) : Nat :=
  2 * (m.program.size - s.line) - if m.Leaves s then 0 else 1

theorem budget_le (m : Machine) (s : State) : m.budget s ≤ 2 * (m.program.size - s.line) :=
  Nat.sub_le _ _

theorem le_budget (m : Machine) (s : State) : 2 * (m.program.size - s.line) ≤ m.budget s + 1 := by
  rw [budget]
  split <;> omega

/-- A step that goes on without a jump back takes a look from those that are left. -/
theorem budget_lt (h : m.step s = .running s') (hback : ¬m.JumpsBack s) :
    m.budget s' < m.budget s := by
  have hlt := lt_size_of_step h nofun
  have hleft := m.le_budget s
  have hleft' := m.budget_le s'
  cases moved h with
  | on hline => omega
  | jumped htarget hsize =>
    have hforward : s.line < s'.line := Nat.lt_of_not_le fun hle => hback ⟨s'.line, htarget, hle⟩
    omega
  | left hleaves hline _ hnot =>
    rw [budget, budget, if_pos hleaves, if_neg hnot]
    omega

/-- What is looked at in a run was left at its start or is owed to its jumps back. -/
theorem looks_le_budget (m : Machine) (n : Nat) (s : State) :
    m.looks n s ≤ m.budget s + 2 * m.program.size * m.backJumps n s := by
  induction n generalizing s with
  | zero => exact Nat.zero_le _
  | succ n ih =>
    rw [looks, backJumps]
    cases hstep : m.step s with
    | finished t => exact Nat.zero_le _
    | failed t cause =>
      have hlt := lt_size_of_step hstep nofun
      have hleft := m.le_budget s
      dsimp only
      omega
    | running s' =>
      have hrest := ih s'
      dsimp only
      by_cases hback : m.JumpsBack s
      · -- the jump pays for all lines that may be looked at from its target on
        have hlt := lt_size_of_step hstep nofun
        have hleft := m.le_budget s
        have hfull := m.budget_le s'
        rw [if_pos hback, Nat.mul_add]
        omega
      · have hless := budget_lt hstep hback
        simp only [if_neg hback, Nat.add_zero]
        omega

/-! ### Runs that stop -/

theorem looks_of_running {n : Nat} (h : m.run n s = .running t) : m.looks n s = n := by
  induction n generalizing s with
  | zero => rfl
  | succ n ih =>
    rw [run] at h
    rw [looks]
    cases hstep : m.step s with
    | running s' =>
      rw [hstep] at h
      exact congrArg (· + 1) (ih h)
    | finished s' =>
      rw [hstep] at h
      cases h
    | failed s' cause =>
      rw [hstep] at h
      cases h

/-- A run that looks at no more than a fixed number of lines stops. -/
theorem halts_of_looks_le {bound : Nat} (h : ∀ n, m.looks n s ≤ bound) : ∃ o, m.Halts s o := by
  refine ⟨m.run (bound + 1) s, ?_, bound + 1, rfl⟩
  intro t ht
  have hlooks := h (bound + 1)
  rw [looks_of_running ht] at hlooks
  omega

theorem backJumps_eq_zero (h : ∀ t, m.Reaches s t → ¬m.JumpsBack t) (n : Nat) :
    m.backJumps n s = 0 := by
  induction n generalizing s with
  | zero => rfl
  | succ n ih =>
    rw [backJumps]
    cases hstep : m.step s with
    | running s' =>
      dsimp only
      rw [if_neg (h s .refl), ih fun t ht => h t (.head hstep ht)]
    | finished s' => rfl
    | failed s' cause => rfl

/-- A run in which every jump leads forward stops. -/
theorem halts_of_not_jumpsBack (h : ∀ t, m.Reaches s t → ¬m.JumpsBack t) : ∃ o, m.Halts s o := by
  have hlooks (n : Nat) : m.looks n s ≤ m.budget s := by
    have hle := m.looks_le_budget n s
    rwa [backJumps_eq_zero h, Nat.mul_zero, Nat.add_zero] at hle
  exact halts_of_looks_le hlooks

/-- **A run goes on only by jumping back.** From every state, a run looks at no more than two lines
for each line of the program and each stretch between jumps back. A step that neither fails nor
jumps back leaves fewer lines ahead, or as many in a block that is less deep. So a run stops if all
its jumps lead forward, and every run of a program without jumps does. -/
theorem run_looks (m : Machine) (s : State) :
    (∀ n, m.looks n s ≤ 2 * m.program.size * (m.backJumps n s + 1)) ∧
    (∀ s', m.step s = .running s' → ¬m.JumpsBack s →
      Prod.Lex (· < ·) (· < ·) (m.program.size - s'.line, s'.depth)
        (m.program.size - s.line, s.depth)) ∧
    ((∀ t, m.Reaches s t → ¬m.JumpsBack t) → ∃ o, m.Halts s o) ∧
    ((∀ line ∈ m.program.lines, kindOf? line ≠ some .jump) → ∃ o, m.Halts s o) := by
  refine ⟨fun n => ?_, fun s' => lex_of_step, halts_of_not_jumpsBack, fun hnone => ?_⟩
  · have hlooks := m.looks_le_budget n s
    have hbudget := m.budget_le s
    rw [Nat.mul_add]
    omega
  · refine halts_of_not_jumpsBack fun t _ hback => ?_
    obtain ⟨target, htarget, -⟩ := hback
    obtain ⟨line, hmem, hkind⟩ := exists_jump_of_jumpTarget? htarget
    exact hnone line hmem hkind

/-- A loop that is gone through twice, with a line that ends the block at its end, and a program
without jumps. -/
theorem run_looks_loop :
    let m : Machine :=
      ⟨.ofLines "" [
        ['i', '=', '2'],
        ['i', 'f', ' ', 'i', '>', '0'],
        [' ', 'i', '=', 'i', '-', '1'],
        [' ', 'g', 'o', 't', 'o', ' ', '2'],
        ['p', 'r', 'i', 'n', 't', ' ', 'i']],
        1, by decide, []⟩
    let m' : Machine := ⟨.ofLines "" [['i', 'f', ' ', '1', '>', '0'], ['x', '=', '1']], .standard⟩
    m.backJumps 20 {} = 2 ∧ m.looks 20 {} = 13 ∧ 13 ≤ 2 * m.program.size * (2 + 1) ∧
      ∃ o, m'.Halts {} o := by
  intro m m'
  have hback : m.backJumps 20 {} = 2 := by decide +kernel
  have hlooks : m.looks 20 {} = 13 := by decide +kernel
  have hbound := (m.run_looks {}).1 20
  rw [hback, hlooks] at hbound
  exact ⟨hback, hlooks, hbound, (m'.run_looks {}).2.2.2 (by decide +kernel)⟩

end Machine

end LineScript
