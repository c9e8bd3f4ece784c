import LineScript.Proofs.Dispatch

/-!
# Jumps and the nesting of blocks

The parent of a line is the nearest line before it that is less deep, and the lines that enclose it
are its parent, the parent of that, and so on. Blank lines have no part in this.

A machine does not know about parents. It lets a jump through unless the target is deeper than the
current block, which is as deep as the line of the jump. What this comes to for the nesting is the
condition `Program.Within`: the lines that enclose the target enclose the jump as well if, and only
if, nothing between the two lines is as shallow as the parent of the target. A jump across such a
line leads into a block beside its own, and is let through like any other.

The chain of parents is turned into a statement about depths by `Program.encloses_iff`: a line
encloses another exactly when everything below it, down to that line, is deeper than itself.
-/

namespace LineScript

open Text

namespace Program

variable {p : Program} {depth i j k t : Nat}

/-! ### Parents -/

/-- The depth of the line with a given index, unless it is blank. -/
def depthAt? (p : Program) (i : Nat) : Option Nat := do
  let line ← p.line? i
  if allBlank line then none else some (depthOf line)

/-- The nearest line before an index that is less deep than a given depth. -/
def shallowerBefore? (p : Program) (depth : Nat) : Nat → Option Nat
  | 0 => none
  | i + 1 =>
    if ∃ d ∈ p.depthAt? i, d < depth then some i else p.shallowerBefore? depth i

/-- The nearest line before a line that is less deep. -/
def parent? (p : Program) (i : Nat) : Option Nat := do
  p.shallowerBefore? (← p.depthAt? i) i

/-- The line `j` is the parent of the line `i`, or the parent of its parent, and so on. -/
def Encloses (p : Program) (j i : Nat) : Prop :=
  Relation.TransGen (fun j i => p.parent? i = some j) j i

theorem depthAt?_eq_some_iff :
    p.depthAt? i = some depth ↔
      ∃ line, p.line? i = some line ∧ allBlank line = false ∧ depthOf line = depth := by
  simp [depthAt?, Option.bind_eq_some_iff]

/-- The line found is the last one before the index that is less deep. -/
theorem of_shallowerBefore? (h : p.shallowerBefore? depth i = some j) :
    j < i ∧ (∃ d ∈ p.depthAt? j, d < depth) ∧
      ∀ k, j < k → k < i → ∀ d ∈ p.depthAt? k, depth ≤ d := by
  induction i with
  | zero => cases h
  | succ i ih =>
    rw [shallowerBefore?] at h
    split at h
    · rename_i hless
      obtain rfl := Option.some.inj h
      exact ⟨Nat.lt_succ_self i, hless, fun k hk hk' => by omega⟩
    · rename_i hnot
      obtain ⟨hlt, hless, hbetween⟩ := ih h
      refine ⟨Nat.lt_succ_of_lt hlt, hless, fun k hk hk' d hd => ?_⟩
      obtain hki | rfl : k < i ∨ k = i := by omega
      · exact hbetween k hk hki d hd
      · exact Nat.le_of_not_lt fun hd' => hnot ⟨d, hd, hd'⟩

/-- A line is found at or after every line that is less deep. -/
theorem exists_shallowerBefore? (hlt : j < i) (hless : ∃ d ∈ p.depthAt? j, d < depth) :
    ∃ k, p.shallowerBefore? depth i = some k ∧ j ≤ k := by
  induction i with
  | zero => cases hlt
  | succ i ih =>
    rw [shallowerBefore?]
    split
    · exact ⟨i, rfl, Nat.le_of_lt_succ hlt⟩
    · rename_i hnot
      obtain hji | rfl : j < i ∨ j = i := by omega
      · exact ih hji
      · exact absurd hless hnot

/-- The parent of a line is less deep, and what lies between them is not less deep than the line. -/
theorem of_parent? (hi : p.depthAt? i = some depth) (h : p.parent? i = some j) :
    j < i ∧ (∃ d ∈ p.depthAt? j, d < depth) ∧
      ∀ k, j < k → k < i → ∀ d ∈ p.depthAt? k, depth ≤ d := by
  rw [parent?, hi] at h
  exact of_shallowerBefore? h

/-! ### Enclosing lines -/

/-- **Nesting by depths**: a line encloses another when all that comes below it, down to that line,
is deeper than itself. -/
theorem encloses_iff (hi : p.depthAt? i = some depth) :
    p.Encloses j i ↔
      j < i ∧ ∃ d ∈ p.depthAt? j, ∀ k, j < k → k ≤ i → ∀ e ∈ p.depthAt? k, d < e := by
  constructor
  · intro h
    induction h generalizing depth with
    | single hparent =>
      obtain ⟨hlt, ⟨d, hd, hless⟩, hbetween⟩ := of_parent? hi hparent
      refine ⟨hlt, d, hd, fun k hk hk' e he => ?_⟩
      obtain hki | rfl := Nat.lt_or_eq_of_le hk'
      · have := hbetween k hk hki e he
        omega
      · obtain rfl := Option.some.inj (hi.symm.trans he)
        exact hless
    | @tail b c _ hparent ih =>
      -- the parent is deeper than `j`, and what follows it is deeper still
      obtain ⟨hlt, ⟨d', hd', hless⟩, hbetween⟩ := of_parent? hi hparent
      obtain ⟨hjb, d, hd, hdeeper⟩ := ih hd'
      have hdd' := hdeeper b hjb (Nat.le_refl b) d' hd'
      refine ⟨hjb.trans hlt, d, hd, fun k hk hk' e he => ?_⟩
      obtain hkb | hkb := Nat.lt_or_ge b k
      · obtain hki | rfl := Nat.lt_or_eq_of_le hk'
        · have := hbetween k hkb hki e he
          omega
        · obtain rfl := Option.some.inj (hi.symm.trans he)
          omega
      · exact hdeeper k hk hkb e he
  · rintro ⟨hlt, d, hd, hdeeper⟩
    -- the parent of `i` is `j` or a line below it, to which the same applies
    induction i using Nat.strong_induction_on generalizing depth with
    | _ i ih =>
      have hless : d < depth := hdeeper i hlt (Nat.le_refl i) depth hi
      obtain ⟨b, hb, hjb⟩ := exists_shallowerBefore? hlt ⟨d, hd, hless⟩
      have hparent : p.parent? i = some b := by rw [parent?, hi]; exact hb
      obtain ⟨hbi, ⟨e, he, -⟩, -⟩ := of_parent? hi hparent
      obtain hjb | rfl := Nat.lt_or_eq_of_le hjb
      · have hrest := ih b hbi he hjb fun k hk hk' => hdeeper k hk (by omega)
        exact hrest.tail hparent
      · exact .single hparent

/-- What encloses one line encloses another as soon as the parent of the first does. -/
theorem encloses_of_parent? :
    (∀ j, p.Encloses j t → p.Encloses j i) ↔ ∀ b ∈ p.parent? t, p.Encloses b i := by
  constructor
  · exact fun h b hb => h b (.single hb)
  · intro h j hj
    cases hj with
    | single hparent => exact h j hparent
    | tail hj hparent => exact hj.trans (h _ hparent)

/-- Every line between two lines is deeper than the parent of the second. -/
def Within (p : Program) (g t : Nat) : Prop :=
  ∀ b ∈ p.parent? t, ∀ d ∈ p.depthAt? b,
    ∀ k < max g t, min g t < k → ∀ e ∈ p.depthAt? k, d < e

instance (p : Program) (g t : Nat) : Decidable (p.Within g t) :=
  inferInstanceAs (Decidable (∀ b ∈ p.parent? t, _))

/-- The lines that enclose a line enclose another that is not less deep if, and only if, no line
between the two is as shallow as the parent. -/
theorem encloses_iff_within {g : Nat} {dt dg : Nat} (ht : p.depthAt? t = some dt)
    (hg : p.depthAt? g = some dg) (hle : dt ≤ dg) :
    (∀ j, p.Encloses j t → p.Encloses j g) ↔ p.Within g t := by
  rw [encloses_of_parent?]
  refine forall₂_congr fun b hb => ?_
  obtain ⟨hbt, ⟨d, hd, hless⟩, hbetween⟩ := of_parent? ht hb
  rw [encloses_iff hg]
  constructor
  · rintro ⟨hbg, d', hd', hdeeper⟩ d'' hd'' k hk' hk e he
    obtain rfl := Option.some.inj (hd'.symm.trans hd'')
    obtain rfl := Option.some.inj (hd.symm.trans hd')
    have hbk : b < k := by omega
    -- below the parent, a line comes before the target, or behind it and before the jump
    obtain hkt | hkt := Nat.lt_or_ge k t
    · have := hbetween k hbk hkt e he
      omega
    · exact hdeeper k hbk (by omega) e he
  · intro hwithin
    have hwithin := hwithin d hd
    have hbg : b < g := by
      by_contra hgb
      obtain rfl | hgb := Nat.eq_or_lt_of_le (Nat.le_of_not_lt hgb)
      · obtain rfl := Option.some.inj (hg.symm.trans hd)
        omega
      · exact Nat.lt_irrefl d (hwithin b (by omega) (by omega) d hd)
    refine ⟨hbg, d, hd, fun k hk hk' e he => ?_⟩
    obtain hkt | rfl | hkt := Nat.lt_trichotomy k t
    · have := hbetween k hk hkt e he
      omega
    · obtain rfl := Option.some.inj (ht.symm.trans he)
      exact hless
    · obtain hkg | rfl := Nat.lt_or_eq_of_le hk'
      · exact hwithin k (by omega) (by omega) e he
      · obtain rfl := Option.some.inj (hg.symm.trans he)
        omega

/-- The lines that enclose a line are less deep. -/
theorem Encloses.depth_lt {d : Nat} (h : p.Encloses j i) (hi : p.depthAt? i = some depth)
    (hj : p.depthAt? j = some d) : d < depth := by
  obtain ⟨hlt, d', hd', hdeeper⟩ := (encloses_iff hi).mp h
  obtain rfl := Option.some.inj (hj.symm.trans hd')
  exact hdeeper i hlt (Nat.le_refl i) depth hi

end Program

/-! ### Jumps -/

namespace Machine

variable {m : Machine} {s : State} {statement : Statement} {expression : Text} {value : Value}
  {t depth : Nat}

theorem jumpIndex_of_depthAt? (h : m.program.depthAt? t = some depth) (current : Nat) :
    m.jumpIndex current (t + 1) =
      if current < depth then .error (.jumpIntoBlock (t + 1)) else .ok t := by
  obtain ⟨line, hline, hblank, rfl⟩ := Program.depthAt?_eq_some_iff.mp h
  have hpos : ¬((t : Int) + 1 < 1) := by omega
  have hindex : ((t : Int) + 1).toNat = t + 1 := by omega
  rw [jumpIndex, if_neg hpos, hindex, Nat.add_sub_cancel, hline]
  simp [hblank]

/-- A jump changes nothing but the cursor: the line it has computed the number of is decided on by
the machine. -/
theorem execute_of_jump (haction : statement.action = .jump expression)
    (hkind : .jump ∉ m.settings.unsupported)
    (hvalue : evalArithmetic s.store expression = .ok value) :
    s.world.execute m.settings statement = (s.world, .ok (.jump value.toInt)) := by
  have hstatement : statement.kind = .jump := by rw [Statement.kind, haction]; rfl
  have heval : evalArithmetic s.world.store expression = .ok value := hvalue
  rw [World.execute, hstatement, if_neg hkind, haction, World.perform, heval]

/-- What comes of a jump is decided by whether its target is let through. -/
theorem step_of_jump {target : Int} (hat : m.statementAt? s = some statement)
    (hexec : s.world.execute m.settings statement = (s.world, .ok (.jump target))) :
    ∃ s', s'.depth = s.depth ∧ s'.world = s.world ∧
      ((∃ f, m.jumpIndex s.depth target = .error f ∧ m.step s = .failed s' (.script f) ∧
          s'.line = s.line) ∨
        m.jumpIndex s.depth target = .ok s'.line ∧ m.step s = .running s') := by
  have hcarried := carried hat
  generalize m.step s = o at hcarried
  cases hcarried with
  | failed h _ _ => simp [hexec] at h
  | next h _ _ => simp [hexec] at h
  | enters h _ _ => simp [hexec] at h
  | @refused s' _ f h herror hline hdepth =>
    obtain ⟨hworld, rfl⟩ : s.world = s'.world ∧ target = _ := by simpa [hexec] using h
    exact ⟨s', hdepth, hworld.symm, .inl ⟨f, herror, rfl, hline⟩⟩
  | @jumps s' _ h hindex hdepth =>
    obtain ⟨hworld, rfl⟩ : s.world = s'.world ∧ target = _ := by simpa [hexec] using h
    exact ⟨s', hdepth, hworld.symm, .inr ⟨hindex, rfl⟩⟩

theorem depthAt?_of_statementAt? (h : m.statementAt? s = some statement) :
    m.program.depthAt? s.line = some s.depth := by
  obtain ⟨line, hline, hblank, -, hdepth, -⟩ := statementAt?_eq_some_iff.mp h
  exact Program.depthAt?_eq_some_iff.mpr ⟨line, hline, hblank, hdepth⟩

/-- **Where a jump can lead.** A jump to a line that is not blank is let through exactly when that
line is not deeper than the jump, and only the line of the cursor changes then; otherwise it is
refused and nothing changes. The lines that enclose the target of a jump that is let through are
less deep than the jump, and they enclose the jump as well if, and only if, no line between the two
is as shallow as the parent of the target. -/
theorem jump_encloses (hat : m.statementAt? s = some statement)
    (haction : statement.action = .jump expression) (hkind : .jump ∉ m.settings.unsupported)
    (hvalue : evalArithmetic s.store expression = .ok value) (htarget : value.toInt = t + 1)
    (hdepth : m.program.depthAt? t = some depth) :
    m.program.depthAt? s.line = some s.depth ∧
    (depth ≤ s.depth →
      (∃ s', m.step s = .running s' ∧ s'.line = t ∧ s'.depth = s.depth ∧ s'.world = s.world) ∧
      (∀ j, m.program.Encloses j t → ∀ d ∈ m.program.depthAt? j, d < s.depth) ∧
      ((∀ j, m.program.Encloses j t → m.program.Encloses j s.line) ↔
        m.program.Within s.line t)) ∧
    (s.depth < depth →
      ∃ s', m.step s = .failed s' (.script (.jumpIntoBlock (t + 1))) ∧
        s'.line = s.line ∧ s'.depth = s.depth ∧ s'.world = s.world) := by
  have hplace := depthAt?_of_statementAt? hat
  have hexec := execute_of_jump haction hkind hvalue
  have hindex := jumpIndex_of_depthAt? hdepth s.depth
  rw [htarget] at hexec
  obtain ⟨s', hdepth', hworld, hjump⟩ := step_of_jump hat hexec
  rw [hindex] at hjump
  refine ⟨hplace, fun hle => ⟨?_, fun j hj d hd => ?_, ?_⟩, fun hlt => ?_⟩
  · rw [if_neg (Nat.not_lt.mpr hle)] at hjump
    obtain ⟨f, hf, -⟩ | ⟨hline, hstep⟩ := hjump
    · cases hf
    · exact ⟨s', hstep, (Except.ok.inj hline).symm, hdepth', hworld⟩
  · exact Nat.lt_of_lt_of_le (hj.depth_lt hdepth hd) hle
  · exact Program.encloses_iff_within hdepth hplace hle
  · rw [if_pos hlt] at hjump
    obtain ⟨f, hf, hstep, hline⟩ | ⟨hline, -⟩ := hjump
    · obtain rfl := Except.error.inj hf
      exact ⟨s', hstep, hline, hdepth', hworld⟩
    · cases hline

/-- A jump within a block, over a blank line and a block inside, and one that is refused. -/
theorem jump_encloses_block :
    let m : Machine :=
      ⟨.ofLines "" [
        ['i', 'f', ' ', '1', '>', '0'],
        [' ', 'g', 'o', 't', 'o', ' ', '5'],
        [],
        [' ', ' ', 'p', 'r', 'i', 'n', 't', ' ', '0'],
        [' ', 'p', 'r', 'i', 'n', 't', ' ', '1']],
        1, by decide, []⟩
    let m' : Machine :=
      ⟨.ofLines "" [
        ['g', 'o', 't', 'o', ' ', '3'],
        ['i', 'f', ' ', '1', '>', '2'],
        [' ', 'p', 'r', 'i', 'n', 't', ' ', '1']],
        1, by decide, []⟩
    ((∃ s s', m.Reaches {} s ∧ s.line = 1 ∧ m.step s = .running s' ∧ s'.line = 4) ∧
      ∀ j, m.program.Encloses j 4 → m.program.Encloses j 1) ∧
    ∃ s', m'.step {} = .failed s' (.script (.jumpIntoBlock 3)) := by
  intro m m'
  have henter : m.step {} = .running (m.step {}).state := by decide +kernel
  have hline : (m.step {}).state.line = 1 := by decide +kernel
  have hat : m.statementAt? (m.step {}).state =
      some ⟨['g', 'o', 't', 'o', ' ', '5'], .jump ['5']⟩ := by decide +kernel
  have hvalue : evalArithmetic (m.step {}).state.store ['5'] = .ok (.int 5) := by decide +kernel
  have hdepth : m.program.depthAt? 4 = some 1 := by decide +kernel
  obtain ⟨-, haccepted, -⟩ := jump_encloses hat rfl List.not_mem_nil hvalue rfl hdepth
  obtain ⟨⟨s', hstep, hline', -⟩, -, hnested⟩ := haccepted (by decide +kernel)
  rw [hline] at hnested
  have hat' : m'.statementAt? {} = some ⟨['g', 'o', 't', 'o', ' ', '3'], .jump ['3']⟩ := by
    decide +kernel
  have hvalue' : evalArithmetic .empty ['3'] = .ok (.int 3) := by decide +kernel
  have hdepth' : m'.program.depthAt? 2 = some 1 := by decide +kernel
  obtain ⟨-, -, hrefused⟩ := jump_encloses hat' rfl List.not_mem_nil hvalue' rfl hdepth'
  obtain ⟨s'', hfailed, -⟩ := hrefused Nat.zero_lt_one
  exact ⟨⟨⟨_, s', .single henter, hline, hstep, hline'⟩, hnested.mpr (by decide +kernel)⟩,
    s'', hfailed⟩

/-- A jump out of one block and into another of the same depth that has not been entered: the
condition on the third line encloses the target and not the jump. -/
theorem jump_into_sibling :
    let m : Machine :=
      ⟨.ofLines "" [
        ['i', 'f', ' ', '1', ' ', '>', ' ', '0'],
        [' ', ' ', ' ', ' ', 'g', 'o', 't', 'o', ' ', '4'],
        ['i', 'f', ' ', '1', ' ', '>', ' ', '2'],
        [' ', ' ', ' ', ' ', 'p', 'r', 'i', 'n', 't', ' ', '1']], .standard⟩
    (∀ line ∈ m.program.lines, allBlank line = false → WellIndented m.unit line) ∧
    ∃ s s', m.Reaches {} s ∧ s.line = 1 ∧ m.step s = .running s' ∧ s'.line = 3 ∧
      m.program.Encloses 2 3 ∧ ¬m.program.Encloses 2 1 := by
  intro m
  have henter : m.step {} = .running (m.step {}).state := by decide +kernel
  have hjump : m.step (m.step {}).state = .running (m.step (m.step {}).state).state := by
    decide +kernel
  refine ⟨by decide +kernel, _, _, .single henter, by decide +kernel, hjump, by decide +kernel,
    .single (by decide +kernel), fun hencloses => ?_⟩
  have hdepth : m.program.depthAt? 1 = some 4 := by decide +kernel
  obtain ⟨hlt, -⟩ := (Program.encloses_iff hdepth).mp hencloses
  exact absurd hlt (by decide)

end Machine

end LineScript
