import LineScript.Expr.Tree
import LineScript.Proofs.CharClass
import Mathlib.Data.Nat.Digits.Defs

/-!
# What operands and operators stand for

An operand of the grammar is a number or a name. `operandMeaning` says what it stands for without
regard to how it is evaluated: ASCII digits stand for the number they write in base ten, as long as
there are no more of them than a numeral may have, and any other text for the variable whose letter
it is. `evalOperand_eq_operandMeaning` is the comparison; below it are the facts about numerals and
about the letters of the variables that it rests on.

In the same way `BinaryOp.meaning` says what an operator stands for: the sum, difference or product
of two integers, their quotient truncated toward zero unless the divisor is zero, or the truth of a
comparison. Operators are applied as this demands (`BinaryOp.apply_eq_meaning`), where the quotient
is the point, as it is computed from absolute values and signs (`divide_of_ne_zero`).
-/

namespace LineScript

open Text

/-! ### The letters of the variables -/

namespace Variable

@[simp] theorem ofChar?_letter (v : Variable) : ofChar? v.letter = some v := by
  revert v
  decide +kernel

/-- The variable that a character names has this character for its letter. -/
theorem letter_of_ofChar? {c : Char} {v : Variable} (h : ofChar? c = some v) : v.letter = c := by
  unfold ofChar? at h
  split at h
  · rename_i hc
    obtain rfl := Option.some.inj h
    have hlt : c.toNat - 0x61 < 26 := by omega
    have hsum : 0x61 + (c.toNat - 0x61) = c.toNat := by omega
    rw [letter, if_pos hlt, hsum, Char.ofNat_toNat]
  · split at h
    · rename_i hc
      obtain rfl := Option.some.inj h
      have hge : ¬c.toNat - 0x41 + 26 < 26 := by omega
      have hsum : 0x41 + (c.toNat - 0x41 + 26 - 26) = c.toNat := by omega
      rw [letter, if_neg hge, hsum, Char.ofNat_toNat]
    · cases h

/-- A text names the variable whose letter it is. -/
theorem ofText?_eq_some_iff {t : Text} {v : Variable} : ofText? t = some v ↔ [v.letter] = t := by
  constructor
  · intro h
    match t, h with
    | [c], h => exact congrArg ([·]) (letter_of_ofChar? h)
  · rintro rfl
    exact ofChar?_letter v

/-- Every variable is found by its letter. -/
theorem resolve_letter (v : Variable) : resolve [v.letter] = .ok v := by
  rw [resolve, ofText?_eq_some_iff.mpr rfl]

/-- A text that is resolved to a variable is its letter. -/
theorem letter_of_resolve {t : Text} {v : Variable} (h : resolve t = .ok v) : [v.letter] = t := by
  rw [resolve] at h
  split at h
  · rename_i w hw
    cases h
    exact ofText?_eq_some_iff.mp hw
  · cases h

/-- A text that is no letter of a variable is refused. -/
theorem resolve_of_ne_letter {t : Text} (h : ∀ v : Variable, [v.letter] ≠ t) :
    resolve t = .error (.invalidName (quoted t)) := by
  have hnone : ofText? t = none :=
    Option.eq_none_iff_forall_ne_some.mpr fun v hv => h v (ofText?_eq_some_iff.mp hv)
  rw [resolve, hnone]

end Variable

/-! ### Numbers -/

/-- The number that ASCII digits write in base ten, the most significant digit first. -/
def plainValue (t : Text) : Nat := Nat.ofDigits 10 (t.reverse.map fun c => c.toNat - 0x30)

/-- A digit in front counts its value at the next higher place. -/
theorem plainValue_cons (c : Char) (t : Text) :
    plainValue (c :: t) = (c.toNat - 0x30) * 10 ^ t.length + plainValue t := by
  rw [plainValue, plainValue, List.reverse_cons, List.map_append, Nat.ofDigits_append,
    List.length_map, List.length_reverse, List.map_singleton, Nat.ofDigits_singleton]
  ring

/-- Reading digits behind a number `n` shifts it and adds what they write. -/
private theorem foldlM_digitValue? {t : Text} (ht : ∀ c ∈ t, isPlainDigit c = true) (n : Nat) :
    t.foldlM (fun n c => (digitValue? c).map (10 * n + ·)) n =
      some (n * 10 ^ t.length + plainValue t) := by
  induction t generalizing n with
  | nil => simp [plainValue]
  | cons c t ih =>
    have hc := digitValue?_of_isPlainDigit (ht c List.mem_cons_self)
    rw [List.foldlM_cons, hc, Option.map_some, Option.bind_eq_bind, Option.bind_some,
      ih fun d hd => ht d (List.mem_cons_of_mem c hd), plainValue_cons, List.length_cons]
    congr 1
    ring

/-- ASCII digits are read as the number they write. -/
theorem digitsValue?_of_plain {t : Text} (ht : ∀ c ∈ t, isPlainDigit c = true) :
    Numeral.digitsValue? t = some (plainValue t) := by
  rw [Numeral.digitsValue?, foldlM_digitValue? ht, Nat.zero_mul, Nat.zero_add]

theorem isNumberWord_of_plain {t : Text} (hne : t ≠ []) (ht : ∀ c ∈ t, isPlainDigit c = true) :
    isNumberWord t = true := by
  have hall : t.all isDigitLike = true :=
    List.all_eq_true.mpr fun c hc => isDigitLike_of_isPlainDigit (ht c hc)
  rw [isNumberWord, hall, Bool.and_true, Bool.not_eq_true', List.isEmpty_eq_false_iff]
  exact hne

/-! ### Operands -/

/-- The integer an operand stands for: the number its digits write, or the value of the variable it
names. -/
def operandMeaning (store : Store) (t : Text) : Except Fault Int :=
  if t.all isPlainDigit then
    if t.length ≤ Numeral.digitLimit then .ok (plainValue t) else .error (.literalTooLong t.length)
  else
    match Variable.all.find? fun v => [v.letter] = t with
    | some v =>
      match store.get? v with
      | some n => .ok n
      | none => .error (.undefinedVariable v.letter)
    | none => .error (.invalidName (quoted t))

/-- A number is evaluated to what it stands for. -/
theorem evalOperand_of_plain {t : Text} (hne : t ≠ []) (ht : ∀ c ∈ t, isPlainDigit c = true)
    (store : Store) : evalOperand store t = operandMeaning store t := by
  rw [evalOperand, isNumberWord_of_plain hne ht, if_pos rfl, operandMeaning,
    List.all_eq_true.mpr ht, if_pos rfl, Numeral.literal?]
  by_cases hlen : t.length ≤ Numeral.digitLimit
  · rw [if_pos hlen, if_pos hlen, digitsValue?_of_plain ht]
  · rw [if_neg hlen, if_neg hlen]

/-- What is no number is looked up under the variable whose letter it is. -/
theorem lookup_eq_operandMeaning {t : Text} (ht : t.all isPlainDigit = false) (store : Store) :
    store.lookup t = operandMeaning store t := by
  rw [operandMeaning, ht, if_neg Bool.false_ne_true, Store.lookup]
  cases hv : Variable.all.find? fun v => [v.letter] = t with
  | none =>
    have hne : ∀ v : Variable, [v.letter] ≠ t := fun v =>
      of_decide_eq_false (by simpa using List.find?_eq_none.mp hv v (List.mem_finRange v))
    rw [Variable.resolve_of_ne_letter hne]
    rfl
  | some v =>
    have hfound := List.find?_some (p := fun v : Variable => decide ([v.letter] = t)) hv
    obtain rfl : [v.letter] = t := of_decide_eq_true hfound
    rw [Variable.resolve_letter]
    rfl

/-- A name is evaluated to what it stands for. -/
theorem evalOperand_of_isNameStart {c : Char} (hc : isNameStart c = true) (store : Store) :
    evalOperand store [c] = operandMeaning store [c] := by
  have hnumber : isNumberWord [c] = false := by
    simp [isNumberWord, isDigitLike_of_isNameStart hc]
  have hplain : [c].all isPlainDigit = false := by
    simp [isPlainDigit_of_isNameStart hc]
  have hletter : (isLetter c || c == '_') = true := by
    rcases Bool.or_eq_true_iff.mp hc with hlow | hplain
    · rw [hlow, Bool.or_true]
    · rw [isLetter_of_isPlainLetter hplain, Bool.true_or]
  rw [evalOperand, hnumber, if_neg Bool.false_ne_true, ← lookup_eq_operandMeaning hplain]
  exact if_pos hletter

/-- An operand of the grammar is evaluated to what it stands for. -/
theorem evalOperand_eq_operandMeaning {t : Text} (ht : isOperandText t) (store : Store) :
    evalOperand store t = operandMeaning store t := by
  rcases ht with ⟨hne, hdigits⟩ | ⟨c, rfl, hname⟩
  · exact evalOperand_of_plain hne hdigits store
  · exact evalOperand_of_isNameStart hname store

/-! ### Operators -/

/-- What a binary operator makes of two integers. -/
def BinaryOp.meaning : BinaryOp → Int → Int → Except Fault Value
  | arithmetic .add, left, right => .ok (.int (left + right))
  | arithmetic .subtract, left, right => .ok (.int (left - right))
  | arithmetic .multiply, left, right => .ok (.int (left * right))
  | arithmetic .divide, left, right =>
    if right = 0 then .error .divisionByZero else .ok (.int (left.tdiv right))
  | comparison .greater, left, right => .ok (.truth (left > right))
  | comparison .less, left, right => .ok (.truth (left < right))
  | comparison .equal, left, right => .ok (.truth (left = right))
  | comparison .greaterEqual, left, right => .ok (.truth (left ≥ right))
  | comparison .lessEqual, left, right => .ok (.truth (left ≤ right))

/-- **Division truncates toward zero.** Truncation commutes with changing the sign of an operand, so
only the quotient of the absolute values is left, which has no part to cut off below zero. -/
theorem divide_of_ne_zero {left right : Int} (h : right ≠ 0) :
    divide left right = .ok (left.tdiv right) := by
  have habs (n : Int) : (n.natAbs : Int) = if n < 0 then -n else n := by
    split <;> omega
  simp only [divide, if_neg h, Int.ofNat_tdiv, habs]
  by_cases hleft : left < 0 <;> by_cases hright : right < 0 <;>
    simp [hleft, hright, Int.neg_tdiv, Int.tdiv_neg]

/-- An operator is applied as its meaning demands. -/
theorem BinaryOp.apply_eq_meaning (op : BinaryOp) (left right : Int) :
    op.apply left right = op.meaning left right := by
  cases op with
  | comparison op => cases op <;> rfl
  | arithmetic op =>
    cases op with
    | add | subtract | multiply => rfl
    | divide =>
      rw [apply, Arithmetic.apply, meaning]
      split
      · rename_i hzero
        rw [divide, if_pos hzero]
        rfl
      · rename_i hne
        rw [divide_of_ne_zero hne]
        rfl

end LineScript
