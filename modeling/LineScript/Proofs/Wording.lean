import LineScript.Proofs.Operand
import LineScript.Proofs.Step

/-!
# Texts of one line

An error is reported in two lines, one that shows the line of the program and one that words the
fault, so neither may hold a line feed. The lines of a program hold none because that is where they
were cut apart, and quoted texts and numerals hold none because of how they are written. A fault
shows a few texts as they stand; `Fault.Presentable` asks that these hold none, and every fault that
reading or evaluating a script comes to is of that kind.

`FailsOnly` is the form in which the latter is carried through a computation: whatever it fails
with, if it fails, is of a given kind. For expressions the kind says more: a fault tells which of
the three passes over the expression has found it (`Fault.ArisesIn`).

One failure of a line cannot be worded at all: the message about an uneven depth shows the indent
unit, and a unit may be past the digit limit (`Unworded`).
-/

namespace LineScript

open Text

/-! ### Lines -/

namespace Text

/-- A character put in front of the first piece is the only one to be looked at. -/
theorem isBreak_of_mem_consHead {c : Char} {ps : List Text} (hc : isBreak c = false)
    (hps : ∀ p ∈ ps, ∀ d ∈ p, isBreak d = false) :
    ∀ p ∈ consHead c ps, ∀ d ∈ p, isBreak d = false := by
  cases ps with
  | nil => simpa [consHead] using hc
  | cons p ps =>
    obtain ⟨hp, hrest⟩ := List.forall_mem_cons.mp hps
    exact List.forall_mem_cons.mpr ⟨List.forall_mem_cons.mpr ⟨hc, hp⟩, hrest⟩

/-- No piece between line ends holds a character of one. -/
theorem isBreak_of_mem_pieces (t : Text) : ∀ p ∈ pieces t, ∀ c ∈ p, isBreak c = false := by
  fun_induction pieces t with
  | case1 => simp
  | case2 rest ih => exact List.forall_mem_cons.mpr ⟨nofun, ih⟩
  | case3 rest _ ih => exact List.forall_mem_cons.mpr ⟨nofun, ih⟩
  | case4 rest ih => exact List.forall_mem_cons.mpr ⟨nofun, ih⟩
  | case5 c rest _ hreturn hfeed ih =>
    have hc : isBreak c = false := by simp_all [isBreak]
    exact isBreak_of_mem_consHead hc ih

/-- Nothing is added where an empty last piece is dropped. -/
theorem dropEmptyLast_sublist (ls : List Text) : (dropEmptyLast ls).Sublist ls := by
  fun_induction dropEmptyLast ls with
  | case1 => exact .slnil
  | case2 last h => exact List.nil_sublist _
  | case3 last h => exact List.Sublist.refl _
  | case4 line rest _ ih => exact ih.cons_cons line

/-- No line of a text holds a character of a line end. -/
theorem isBreak_of_mem_lines {t line : Text} (h : line ∈ lines t) :
    ∀ c ∈ line, isBreak c = false :=
  isBreak_of_mem_pieces t line ((dropEmptyLast_sublist _).subset h)

end Text

/-- A line of a program holds no line feed. -/
theorem Program.newline_not_mem_line {p : Program} {i : Nat} {line : Text}
    (h : p.line? i = some line) : '\n' ∉ line := by
  rw [line?, p.lines_eq, List.getElem?_toArray] at h
  intro hmem
  have hbreak := isBreak_of_mem_lines (List.mem_of_getElem? h) _ hmem
  cases hbreak

/-! ### Numerals and quoted texts -/

/-- Digits put in front of a text bring in no line feed. -/
theorem newline_not_mem_digitsOnto {n : Nat} {tail : Text} (h : '\n' ∉ tail) :
    '\n' ∉ Numeral.digitsOnto n tail := by
  have hdigit : ∀ d < 10, Numeral.digitChar d ≠ '\n' := by decide
  fun_induction Numeral.digitsOnto n tail with
  | case1 n tail hn => simpa [h] using (hdigit n hn).symm
  | case2 n tail hn ih =>
    refine ih ?_
    simpa [h] using (hdigit (n % 10) (Nat.mod_lt n (by decide))).symm

theorem newline_not_mem_digits (n : Nat) : '\n' ∉ Numeral.digits n :=
  newline_not_mem_digitsOnto List.not_mem_nil

/-- The decimal text of an integer is digits, perhaps behind a minus sign. -/
theorem newline_not_mem_decimal (v : Int) : '\n' ∉ Numeral.decimal v := by
  have hdigits := newline_not_mem_digits v.natAbs
  rw [Numeral.decimal]
  split
  · simpa using hdigits
  · exact hdigits

theorem newline_not_mem_hexDigits (k n : Nat) : '\n' ∉ hexDigits k n := by
  have hdigit : ∀ d < 16, hexDigit d ≠ '\n' := by decide
  induction k generalizing n with
  | zero => exact List.not_mem_nil
  | succ k ih =>
    rw [hexDigits, List.mem_append, List.mem_singleton]
    rintro (h | h)
    · exact ih _ h
    · exact hdigit (n % 16) (Nat.mod_lt n (by decide)) h.symm

/-- An escape is a backslash, a letter and hexadecimal digits. -/
theorem newline_not_mem_codePointEscape (c : Char) : '\n' ∉ codePointEscape c := by
  have hescape (k n : Nat) (d : Char) (hd : '\n' ≠ d) : '\n' ∉ backslash :: d :: hexDigits k n := by
    simp only [List.mem_cons, not_or]
    exact ⟨by decide, hd, newline_not_mem_hexDigits k n⟩
  rw [codePointEscape]
  split
  · exact hescape 2 _ 'x' (by decide)
  · split
    · exact hescape 4 _ 'u' (by decide)
    · exact hescape 8 _ 'U' (by decide)

/-- A line feed inside quotes is written by its letter. -/
theorem newline_not_mem_quotedChar {quote : Char} (hquote : quote ≠ '\n') (c : Char) :
    '\n' ∉ quotedChar quote c := by
  -- Escapes with a letter are all of this form; a line feed gets past the first test only.
  have hpair {d : Char} (hd : '\n' ≠ d) : '\n' ∉ [backslash, d] := by
    simp only [List.mem_cons, List.not_mem_nil, or_false, not_or]
    exact ⟨by decide, hd⟩
  by_cases hc : '\n' = c
  · subst hc
    have hback : '\n' ≠ backslash := by decide
    rw [quotedChar, if_neg (by simp [hquote.symm, hback]), if_pos (by decide)]
    exact hpair (by decide)
  · rw [quotedChar]
    split
    · exact hpair hc
    · rw [if_neg (by simpa using Ne.symm hc)]
      split
      · exact hpair (by decide)
      · split
        · exact hpair (by decide)
        · split
          · simpa using hc
          · exact newline_not_mem_codePointEscape c

/-- A text in quotes holds no line feed, whatever the text holds. -/
theorem newline_not_mem_quoted (t : Text) : '\n' ∉ quoted t := by
  have hquote : quoteFor t ≠ '\n' := by
    rw [quoteFor]
    split <;> decide
  rw [quoted]
  simp only [List.mem_cons, List.mem_append, List.mem_flatMap, List.not_mem_nil, or_false, not_or]
  refine ⟨hquote.symm, ?_, hquote.symm⟩
  rintro ⟨c, -, hc⟩
  exact newline_not_mem_quotedChar hquote c hc

/-! ### The digit limit -/

/-- An integer is written exactly below a power of ten. -/
theorem Numeral.decimal?_eq (v : Int) :
    decimal? v = if v.natAbs < 10 ^ digitLimit then some (decimal v) else none := by
  unfold decimal?
  -- The bound is too large to be evaluated.
  generalize digitLimit = limit
  rw [Nat.pow_eq]

/-- From a power of ten on, an integer is not written. -/
theorem Numeral.decimal?_eq_none_iff {v : Int} :
    decimal? v = none ↔ 10 ^ digitLimit ≤ v.natAbs := by
  rw [decimal?_eq, ite_eq_right_iff, ← Nat.not_lt]
  exact forall_congr' fun _ => iff_false_intro nofun

/-- What has one digit is far below the limit. -/
theorem Numeral.lt_limit_of_lt_ten {n : Nat} (h : n < 10) : n < 10 ^ digitLimit :=
  h.trans_le (Nat.le_self_pow (by decide) 10)

theorem newline_not_mem_of_decimal? {v : Int} {t : Text} (h : Numeral.decimal? v = some t) :
    '\n' ∉ t := by
  rw [Numeral.decimal?_eq] at h
  split at h <;> cases h
  exact newline_not_mem_decimal v

/-! ### Messages -/

namespace Fault

/-- The texts that the message of a fault shows as they stand hold no line feed. -/
def Presentable : Fault → Prop
  | invalidName shown => '\n' ∉ shown
  | unevenDepth _ unit => '\n' ∉ unit
  | undefinedVariable letter => '\n' ≠ letter
  | inputEnded name => '\n' ∉ name
  | _ => True

theorem newline_not_mem_quote (t : Text) : '\n' ∉ (quote t).toList := by
  rw [quote, Text.toString, String.toList_ofList]
  exact newline_not_mem_quoted t

theorem newline_not_mem_count (n : Nat) : '\n' ∉ (Numeral.count n).toList := by
  rw [Numeral.count, Text.toString, String.toList_ofList]
  exact newline_not_mem_digits n

/-- The target of a jump is shown by its digits or by a word. -/
theorem newline_not_mem_shownTarget (v : Int) : '\n' ∉ (shownTarget v).toList := by
  rw [shownTarget]
  split
  · rw [Text.toString, String.toList_ofList]
    exact newline_not_mem_decimal v
  · decide

/-- **Messages are single lines.** The words of a message hold no line feed, and neither do the
texts it shows. -/
theorem newline_not_mem_message {f : Fault} (h : f.Presentable) : '\n' ∉ f.message.toList := by
  unfold message
  -- Four faults show a text as it stands; the others show texts in quotes and numerals.
  cases f with
  | invalidName shown | undefinedVariable letter | inputEnded name =>
    simpa [Text.toString, Presentable] using h
  | unevenDepth depth unit =>
    simpa [Text.toString, Presentable, newline_not_mem_count] using h
  | _ =>
    simp [newline_not_mem_quote, newline_not_mem_count, newline_not_mem_shownTarget]

end Fault

theorem Category.newline_not_mem_name (category : Category) : '\n' ∉ category.name.toList := by
  cases category <;> simp [name]

/-! ### Kinds of failure -/

section FailsOnly

variable {ε α β : Type} {P : ε → Prop} {x : Except ε α}

/-- Whatever a computation fails with is of a given kind. -/
def FailsOnly (P : ε → Prop) (x : Except ε α) : Prop := ∀ e, x = .error e → P e

theorem FailsOnly.ok (a : α) : FailsOnly P (.ok a) := nofun

theorem FailsOnly.error {e : ε} (h : P e) : FailsOnly P (.error e : Except ε α) := by
  rintro e' ⟨⟩
  exact h

/-- A kind can be widened. -/
theorem FailsOnly.imp {Q : ε → Prop} (hx : FailsOnly P x) (h : ∀ e, P e → Q e) : FailsOnly Q x :=
  fun e he => h e (hx e he)

/-- One computation after another fails as one of the two does. -/
theorem FailsOnly.bind {f : α → Except ε β} (hx : FailsOnly P x) (hf : ∀ a, FailsOnly P (f a)) :
    FailsOnly P (x >>= f) := by
  intro e h
  cases x with
  | error e' => exact hx e (congrArg Except.error (Except.error.inj h))
  | ok a => exact hf a e h

theorem FailsOnly.map (f : α → β) (hx : FailsOnly P x) : FailsOnly P (x.map f) := by
  intro e h
  cases x with
  | error e' => exact hx e (congrArg Except.error (Except.error.inj h))
  | ok a => cases h

/-- A computation that goes through a list fails as one of its steps does. -/
theorem FailsOnly.foldlM {f : β → α → Except ε β} (h : ∀ b a, FailsOnly P (f b a)) (l : List α)
    (b : β) : FailsOnly P (l.foldlM f b) := by
  induction l generalizing b with
  | nil => exact .ok b
  | cons a l ih =>
    rw [List.foldlM_cons]
    exact (h b a).bind ih

end FailsOnly

/-! ### Faults of an expression -/

/-- The passes over an expression. -/
inductive Pass where
  | lexing | conversion | evaluation
  deriving DecidableEq

namespace Fault

/-- The pass over an expression in which a fault is found, if it is in one. -/
def pass? : Fault → Option Pass
  | unrecognizedCharacter _ | longName _ => some .lexing
  | unmatchedRightParen | unmatchedLeftParen | emptyExpression => some .conversion
  | malformedExpression | literalTooLong _ | missingOperand _ | truthOperand _ | unknownOperator _
  | divisionByZero | invalidName _ | undefinedVariable _ => some .evaluation
  | _ => none

/-- A fault that is found in a pass, and that can be shown in one line. -/
def ArisesIn (pass : Pass) (f : Fault) : Prop := f.Presentable ∧ f.pass? = some pass

end Fault

open Fault (Presentable ArisesIn)

/-- A sign is refused for the character it starts with. -/
theorem Token.scanSign_failsOnly (c : Char) (rest : Text) :
    FailsOnly (ArisesIn .lexing) (scanSign c rest) := by
  unfold scanSign
  split
  · exact .ok _
  · split
    · exact .ok _
    · exact .error ⟨trivial, rfl⟩

theorem Token.scan_failsOnly (c : Char) (rest : Text) :
    FailsOnly (ArisesIn .lexing) (scan c rest) := by
  rw [scan]
  split
  · exact .ok _
  · split
    · split
      · exact .ok _
      · exact .error ⟨trivial, rfl⟩
    · exact scanSign_failsOnly c rest

/-- The first pass finds characters and names that make no token. -/
theorem Token.tokenize_failsOnly (t : Text) : FailsOnly (ArisesIn .lexing) (tokenize t) := by
  fun_induction tokenize t with
  | case1 t h => exact .ok _
  | case2 t c rest h fault hscan =>
    exact .error (scan_failsOnly c rest fault hscan)
  | case3 t c rest h token rest' hscan ih => exact ih.map _

namespace Conversion

theorem close_failsOnly (stack : List Pending) (output : List Item) :
    FailsOnly (ArisesIn .conversion) (close stack output) := by
  fun_induction close stack output with
  | case1 output => exact .error ⟨trivial, rfl⟩
  | case2 stack output => exact .ok _
  | case3 op stack output ih => exact ih

theorem drain_failsOnly (stack : List Pending) (output : List Item) :
    FailsOnly (ArisesIn .conversion) (drain stack output) := by
  fun_induction drain stack output with
  | case1 output => exact .ok _
  | case2 stack output => exact .error ⟨trivial, rfl⟩
  | case3 op stack output ih => exact ih

theorem push_failsOnly (c : Conversion) (token : Token) :
    FailsOnly (ArisesIn .conversion) (c.push token) := by
  cases token with
  | leftParen => exact .ok _
  | rightParen => exact (close_failsOnly c.stack c.output).bind fun _ => .ok _
  | operator op =>
    rw [push]
    split <;> exact .ok _
  | operand t => exact .ok _

theorem finish_failsOnly (c : Conversion) : FailsOnly (ArisesIn .conversion) c.finish := by
  refine (drain_failsOnly c.stack c.output).bind fun output => ?_
  split
  · exact .error ⟨trivial, rfl⟩
  · exact .ok _

end Conversion

/-- The second pass finds parentheses without a partner and expressions without a token. -/
theorem toPostfix_failsOnly (tokens : List Token) :
    FailsOnly (ArisesIn .conversion) (toPostfix tokens) :=
  (FailsOnly.foldlM Conversion.push_failsOnly tokens {}).bind Conversion.finish_failsOnly

/-- A name that is refused is shown in quotes. -/
theorem Variable.resolve_failsOnly (t : Text) :
    FailsOnly (ArisesIn .evaluation) (resolve t) := by
  rw [resolve]
  split
  · exact .ok _
  · exact .error ⟨newline_not_mem_quoted t, rfl⟩

theorem Variable.newline_ne_letter (v : Variable) : '\n' ≠ v.letter := by
  revert v
  decide

theorem Store.get_failsOnly (store : Store) (v : Variable) :
    FailsOnly (ArisesIn .evaluation) (store.get v) := by
  rw [get]
  split
  · exact .ok _
  · exact .error ⟨v.newline_ne_letter, rfl⟩

/-- An operand is refused for its length, its name, or its lack of a value. -/
theorem evalOperand_failsOnly (store : Store) (t : Text) :
    FailsOnly (ArisesIn .evaluation) (evalOperand store t) := by
  rw [evalOperand]
  split
  · split
    · exact .ok _
    · exact .error ⟨trivial, rfl⟩
  · split
    · exact (Variable.resolve_failsOnly t).bind store.get_failsOnly
    · exact .error ⟨trivial, rfl⟩

theorem popOperand_failsOnly (op : Operator) (stack : List Value) :
    FailsOnly (ArisesIn .evaluation) (popOperand op stack) := by
  unfold popOperand
  split
  · exact .error ⟨trivial, rfl⟩
  · exact .error ⟨trivial, rfl⟩
  · exact .ok _

/-- Only a division can fail. -/
theorem BinaryOp.apply_failsOnly (op : BinaryOp) (left right : Int) :
    FailsOnly (ArisesIn .evaluation) (op.apply left right) := by
  cases op with
  | comparison op => exact .ok _
  | arithmetic op =>
    refine FailsOnly.map _ ?_
    cases op with
    | add | subtract | multiply => exact .ok _
    | divide =>
      rw [Arithmetic.apply, divide]
      split
      · exact .error ⟨trivial, rfl⟩
      · exact .ok _

theorem Item.eval_failsOnly (store : Store) (stack : List Value) (item : Item) :
    FailsOnly (ArisesIn .evaluation) (item.eval store stack) := by
  cases item with
  | operand t => exact (evalOperand_failsOnly store t).bind fun _ => .ok _
  | operator op =>
    cases op with
    | negate => exact (popOperand_failsOnly _ stack).bind fun _ => .ok _
    | binary op =>
      refine (popOperand_failsOnly _ stack).bind fun ⟨right, stack⟩ => ?_
      refine (popOperand_failsOnly _ stack).bind fun ⟨left, stack⟩ => ?_
      exact (op.apply_failsOnly left right).bind fun _ => .ok _

/-- The third pass finds what has no value. -/
theorem evalPostfix_failsOnly (store : Store) (items : List Item) :
    FailsOnly (ArisesIn .evaluation) (evalPostfix store items) := by
  refine (FailsOnly.foldlM (Item.eval_failsOnly store) items []).bind fun stack => ?_
  split
  · exact .ok _
  · exact .error ⟨trivial, rfl⟩

/-! ### Faults of a script -/

/-- Whatever is wrong with an expression can be shown in one line. -/
theorem evalArithmetic_failsOnly (store : Store) (t : Text) :
    FailsOnly Presentable (evalArithmetic store t) := by
  refine ((Token.tokenize_failsOnly t).imp fun _ => And.left).bind fun tokens => ?_
  split
  · exact .error trivial
  · refine ((toPostfix_failsOnly tokens).imp fun _ => And.left).bind fun items => ?_
    exact (evalPostfix_failsOnly store items).imp fun _ => And.left

/-- Whatever is wrong with a condition can be shown in one line. -/
theorem evalCondition_failsOnly (store : Store) (t : Text) :
    FailsOnly Presentable (evalCondition store t) := by
  refine ((Token.tokenize_failsOnly t).imp fun _ => And.left).bind fun tokens => ?_
  dsimp only
  split
  · refine ((toPostfix_failsOnly tokens).imp fun _ => And.left).bind fun items => ?_
    refine ((evalPostfix_failsOnly store items).imp fun _ => And.left).bind fun value => ?_
    split
    · exact .ok _
    · exact .error trivial
  · exact .error trivial

/-- A value is written in decimal digits, unless it is too large for that. -/
theorem formatInt_eq (v : Int) :
    formatInt v =
      if v.natAbs < 10 ^ Numeral.digitLimit then .ok (Numeral.decimal v)
      else .error (.tooLargeToWrite (Numeral.bitLength v)) := by
  unfold formatInt
  rw [Numeral.decimal?_eq]
  generalize Numeral.digitLimit = limit
  split_ifs <;> rfl

theorem formatInt_failsOnly (v : Int) : FailsOnly Presentable (formatInt v) := by
  unfold formatInt
  split
  · exact .ok _
  · exact .error trivial

theorem Machine.jumpIndex_failsOnly (m : Machine) (depth : Nat) (target : Int) :
    FailsOnly Presentable (m.jumpIndex depth target) := by
  rw [jumpIndex]
  split
  · exact .error trivial
  · split
    · exact .error trivial
    · exact .ok _

theorem Statement.parse_failsOnly (t : Text) : FailsOnly Presentable (parse t) := by
  rw [parse]
  split
  · exact .ok _
  · exact .error trivial

/-- The depth of a line is no multiple of an indent unit that is too long to be shown, so there is
no message to say this. -/
structure Unworded (unit : Nat) (line : Text) : Prop where
  limit_le : 10 ^ Numeral.digitLimit ≤ unit
  not_dvd_depth : ¬unit ∣ depthOf line
  head_not_isBlank : (line.drop (depthOf line)).head?.any isBlank = false

/-- **A badly indented line is at fault**, and the fault can be shown in one line, unless it is
unworded. -/
theorem indentFailure?_eq_some {unit : Nat} {line : Text} {cause : Failure}
    (h : indentFailure? unit line = some cause) :
    Unworded unit line ∧ cause = .digitLimit ∨ ¬Unworded unit line ∧
      ∃ f, cause = .script f ∧ f.category = .invalidSyntax ∧ f.Presentable := by
  rw [indentFailure?] at h
  split at h
  · rename_i hhead
    refine .inr ⟨fun hun => ?_, _, (Option.some.inj h).symm, rfl, trivial⟩
    rw [hun.head_not_isBlank] at hhead
    cases hhead
  · rename_i hhead
    split at h
    · rename_i hmod
      obtain rfl := Option.some.inj h
      cases hunit : Numeral.decimal? unit with
      | some shown =>
        refine .inr ⟨fun hun => ?_, _, rfl, rfl, newline_not_mem_of_decimal? hunit⟩
        have hnone : Numeral.decimal? unit = none := Numeral.decimal?_eq_none_iff.mpr hun.1
        rw [hnone] at hunit
        cases hunit
      | none =>
        refine .inl ⟨⟨Numeral.decimal?_eq_none_iff.mp hunit, ?_, by simpa using hhead⟩, rfl⟩
        exact fun hdvd => hmod (Nat.mod_eq_zero_of_dvd hdvd)
    · cases h

/-- Where the unit is past the limit, any small depth that is not zero makes a line unworded. -/
theorem Unworded.of_limit_le {unit : Nat} {line : Text} (h : 10 ^ Numeral.digitLimit ≤ unit)
    (hpos : 0 < depthOf line) (hlt : depthOf line < 10)
    (hhead : (line.drop (depthOf line)).head?.any isBlank = false) : Unworded unit line :=
  ⟨h, Nat.not_dvd_of_pos_of_lt hpos ((Numeral.lt_limit_of_lt_ten hlt).trans_le h), hhead⟩

/-- At an unworded line the machine stops, and not with a fault. -/
theorem Machine.step_of_unworded {m : Machine} {s : State} {line : Text}
    (hline : m.program.line? s.line = some line) (hblank : allBlank line = false)
    (h : Unworded m.unit line) : m.step s = .failed s .digitLimit := by
  have hnone : Numeral.decimal? m.unit = none := Numeral.decimal?_eq_none_iff.mpr h.limit_le
  have hmod : depthOf line % m.unit ≠ 0 := fun hzero =>
    h.not_dvd_depth (Nat.dvd_of_mod_eq_zero hzero)
  simp only [step, hline, hblank, visit, h.head_not_isBlank, hnone, Bool.false_eq_true, if_false,
    if_pos hmod]
  rfl

end LineScript
