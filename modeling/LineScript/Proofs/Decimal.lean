import LineScript.Proofs.Reading
import LineScript.Proofs.ValueKind
import Mathlib.Data.Nat.Digits.Lemmas

/-!
# Numerals are read back

Integers are written in decimal digits, and decimal digits are read in two places: as a literal of
an expression, where a minus sign in front of them is an operator, and as a line at the console,
where it belongs to the numeral. In both places what has been written is read back as the integer it
was (`decimal_readBack`), and since a natural number has at most `k` digits exactly if it is less
than the `k`-th power of ten (`Numeral.length_digits_le_iff`), the bound on what can be written and
the two limits on what can be read come to the same integers.
-/

namespace LineScript

open Text

/-! ### The digits of a number -/

namespace Numeral

theorem digits_of_lt {n : Nat} (hn : n < 10) : digits n = [digitChar n] := by
  rw [digits, digitsOnto, if_pos hn]

theorem digitsOnto_eq_append (n : Nat) (tail : Text) : digitsOnto n tail = digits n ++ tail := by
  induction n using Nat.strongRecOn generalizing tail with
  | ind n ih =>
    by_cases hn : n < 10
    · rw [digitsOnto, if_pos hn, digits_of_lt hn]
      rfl
    · have hstep (tail : Text) :
          digitsOnto n tail = digits (n / 10) ++ digitChar (n % 10) :: tail := by
        rw [digitsOnto, if_neg hn]
        exact ih (n / 10) (by omega) _
      rw [digits, hstep tail, hstep [], List.append_assoc]
      rfl

/-- The digits of a number in base ten, the most significant first. -/
theorem digits_eq_map {n : Nat} (hn : n ≠ 0) :
    digits n = (Nat.digits 10 n).reverse.map digitChar := by
  induction n using Nat.strongRecOn with
  | ind n ih =>
    by_cases hlt : n < 10
    · rw [digits_of_lt hlt, Nat.digits_of_lt 10 n hn hlt]
      rfl
    · have hdigits : Nat.digits 10 n = n % 10 :: Nat.digits 10 (n / 10) :=
        Nat.digits_def' (by decide) (Nat.pos_of_ne_zero hn)
      rw [digits, digitsOnto, if_neg hlt, digitsOnto_eq_append, ih (n / 10) (by omega) (by omega),
        hdigits, List.reverse_cons, List.map_append]
      rfl

theorem digits_ne_nil (n : Nat) : digits n ≠ [] := by
  by_cases hn : n = 0
  · rw [hn, digits_of_lt (by decide)]
    exact List.cons_ne_nil _ _
  · rw [digits_eq_map hn, Ne, List.map_eq_nil_iff, List.reverse_eq_nil_iff]
    exact Nat.digits_ne_nil_iff_ne_zero.mpr hn

theorem isPlainDigit_of_mem_digits {n : Nat} {c : Char} (hc : c ∈ digits n) :
    isPlainDigit c = true := by
  have hdigit : ∀ d < 10, isPlainDigit (digitChar d) = true := by decide
  by_cases hn : n = 0
  · rw [hn, digits_of_lt (by decide), List.mem_singleton] at hc
    rw [hc]
    rfl
  · rw [digits_eq_map hn, List.mem_map] at hc
    obtain ⟨d, hd, rfl⟩ := hc
    exact hdigit d (Nat.digits_lt_base (by decide) (List.mem_reverse.mp hd))

/-- **The digits of a number write it.** -/
theorem plainValue_digits (n : Nat) : plainValue (digits n) = n := by
  have hdigit : ∀ d < 10, (digitChar d).toNat - 0x30 = d := by decide
  by_cases hn : n = 0
  · rw [hn, digits_of_lt (by decide)]
    rfl
  · have hvalues : (Nat.digits 10 n).map (fun d => (digitChar d).toNat - 0x30) = Nat.digits 10 n :=
      (List.map_congr_left fun d hd => hdigit d (Nat.digits_lt_base (by decide) hd)).trans
        (List.map_id' _)
    rw [plainValue, digits_eq_map hn, ← List.map_reverse, List.reverse_reverse, List.map_map]
    exact (congrArg (Nat.ofDigits 10) hvalues).trans (Nat.ofDigits_digits 10 n)

/-- A number has at most `k` digits exactly if it is less than the `k`-th power of ten. -/
theorem length_digits_le_iff {n k : Nat} (hk : k ≠ 0) : (digits n).length ≤ k ↔ n < 10 ^ k := by
  by_cases hn : n = 0
  · rw [hn, digits_of_lt (by decide)]
    exact iff_of_true (Nat.one_le_iff_ne_zero.mpr hk) (Nat.pow_pos (by decide))
  · rw [digits_eq_map hn, List.length_map, List.length_reverse,
      Nat.digits_length_le_iff (by decide)]

/-- The digits of a number make a numeral exactly if it is within the bound for writing. -/
theorem isDigits_digits_iff {n : Nat} : IsDigits (digits n) ↔ n < 10 ^ digitLimit := by
  rw [← length_digits_le_iff (by decide)]
  exact ⟨IsDigits.length_le, fun h => ⟨digits_ne_nil n, h, fun _ => isPlainDigit_of_mem_digits⟩⟩

/-! ### Written integers at the console -/

theorem splitSign_decimal (v : Int) :
    splitSign (decimal v) = (decide (v < 0), digits v.natAbs) := by
  rw [decimal]
  by_cases hv : v < 0
  · rw [if_pos hv, decide_eq_true hv]
    rfl
  · rw [if_neg hv, decide_eq_false hv]
    exact splitSign_of_plain fun _ => isPlainDigit_of_mem_digits

/-- What is written for an integer denotes it and nothing else, if the bound for writing is kept. -/
theorem denotes_decimal_iff {v w : Int} :
    Denotes (decimal v) w ↔ v.natAbs < 10 ^ digitLimit ∧ w = v := by
  have hvalue : v = if v < 0 then -(v.natAbs : Int) else v.natAbs := by
    split <;> omega
  rw [denotes_iff, splitSign_decimal, isDigits_digits_iff, plainValue_digits]
  simp only [decide_eq_true_eq, ← hvalue]

theorem decimal_ne_nil (v : Int) : decimal v ≠ [] := by
  rw [decimal]
  split
  · exact List.cons_ne_nil _ _
  · exact digits_ne_nil _

theorem isBlank_of_mem_decimal {v : Int} {c : Char} (hc : c ∈ decimal v) : isBlank c = false := by
  have hdigit (hc : c ∈ digits v.natAbs) : isBlank c = false :=
    isBlank_of_isPlainDigit (isPlainDigit_of_mem_digits hc)
  rw [decimal] at hc
  split at hc
  · rcases List.mem_cons.mp hc with rfl | hc
    · decide +kernel
    · exact hdigit hc
  · exact hdigit hc

end Numeral

theorem Text.trim_eq_self {t : Text} (h : ∀ c ∈ t, isBlank c = false) : trim t = t := by
  have hleft {u : Text} (hu : ∀ c ∈ u, isBlank c = false) : trimLeft u = u := by
    cases u with
    | nil => rfl
    | cons c u => exact trimLeft_cons_of_not_isBlank (hu c List.mem_cons_self) u
  have hright : trimRight t = t := by
    have hreverse : trimLeft t.reverse = t.reverse :=
      hleft fun c hc => h c (List.mem_reverse.mp hc)
    rw [trimRight, ← trimLeft, hreverse, List.reverse_reverse]
  rw [trim, hright, hleft h]

/-- A line that denotes an integer is read without a further prompt. -/
theorem Console.readInteger_of_denotes {c : Console} {line : Text} {rest : List Text} {v : Int}
    (hopen : c.closed = false) (hinput : c.input = line :: rest)
    (hline : Numeral.Denotes (trim line) v) (name : Text) :
    c.readInteger name =
      { console := { c.ask (prompt name) with input := rest }, result := .ok v } := by
  rw [readInteger_of_open hopen, hinput, awaitInteger, Numeral.entry_eq_integer_iff.mpr hline]

/-! ### Written integers in an expression -/

/-- A sentence without comparisons means its tree also where comparisons are refused. -/
theorem evalArithmetic_of_sentence {store : Store} {tokens : List Token} {e : Expr} {t : Text}
    (h : Sentence .comparison tokens e) (hw : Token.Writes tokens t)
    (hnone : tokens.findSome? Token.comparison? = none) :
    evalArithmetic store t = e.meaning store := by
  have ht := tokenize_of_sentence h hw
  rw [evalArithmetic_of_tokenize ht, hnone]
  exact evalInfix_eq_meaning ht h

/-- What is written for an integer has it for its value, if the bound for writing is kept. -/
theorem evalArithmetic_decimal (store : Store) (v : Int) :
    evalArithmetic store (Numeral.decimal v) =
      if v.natAbs < 10 ^ Numeral.digitLimit then .ok (.int v)
      else .error (.literalTooLong (Numeral.digits v.natAbs).length) := by
  have hplain : ∀ c ∈ Numeral.digits v.natAbs, isPlainDigit c = true :=
    fun _ => Numeral.isPlainDigit_of_mem_digits
  have hmeaning : operandMeaning store (Numeral.digits v.natAbs) =
      if v.natAbs < 10 ^ Numeral.digitLimit then .ok (v.natAbs : Int)
      else .error (.literalTooLong (Numeral.digits v.natAbs).length) := by
    rw [operandMeaning, if_pos (List.all_eq_true.mpr hplain), Numeral.plainValue_digits]
    simp only [Numeral.length_digits_le_iff (k := Numeral.digitLimit) (by decide)]
  have hoperand : Sentence .signed [.operand (Numeral.digits v.natAbs)] _ :=
    .tighter (.operand (.inl ⟨Numeral.digits_ne_nil _, hplain⟩))
  have hwrites : Token.Writes [.operand (Numeral.digits v.natAbs)] (Numeral.digits v.natAbs) := by
    have hcons : Token.Writes [.operand (Numeral.digits v.natAbs)]
        ([] ++ (Numeral.digits v.natAbs ++ [])) := .cons rfl (.nil rfl)
    simpa using hcons
  rw [Numeral.decimal]
  by_cases hv : v < 0
  · rw [if_pos hv, evalArithmetic_of_sentence (t := '-' :: Numeral.digits v.natAbs)
      (.tighter (.tighter (.tighter (.negate hoperand)))) (.cons (w := []) rfl hwrites) rfl,
      Expr.meaning, Expr.meaning, hmeaning]
    have hneg : -(v.natAbs : Int) = v := by omega
    by_cases hbound : v.natAbs < 10 ^ Numeral.digitLimit
    · rw [if_pos hbound, if_pos hbound]
      exact congrArg (fun n => Except.ok (Value.int n)) hneg
    · rw [if_neg hbound, if_neg hbound]
      rfl
  · rw [if_neg hv, evalArithmetic_of_sentence (.tighter (.tighter (.tighter hoperand))) hwrites rfl,
      Expr.meaning, hmeaning]
    have hpos : (v.natAbs : Int) = v := by omega
    by_cases hbound : v.natAbs < 10 ^ Numeral.digitLimit
    · rw [if_pos hbound, if_pos hbound, hpos]
      rfl
    · rw [if_neg hbound, if_neg hbound]
      rfl

/-! ### Reading back -/

/-- **What is written for an integer is read back as this integer**, in an expression and at the
console, where the first line is taken without a further prompt. Integers are written exactly below
a power of ten; from there on, what would have to be written is too long for a literal and is not
taken for an integer at the console either. -/
theorem decimal_readBack (v : Int) :
    (v.natAbs < 10 ^ Numeral.digitLimit →
      ∃ t, formatInt v = .ok t ∧ (∀ store, evalArithmetic store t = .ok (.int v)) ∧
        ∀ (c : Console) (name rest : Text), c.closed = false →
          c.input = streamLines (t ++ '\n' :: rest) ∨ c.input = streamLines t ∧ rest = [] →
          (c.readInteger name).result = .ok v ∧
          (c.readInteger name).console =
            { c.ask (Console.prompt name) with input := streamLines rest }) ∧
    (10 ^ Numeral.digitLimit ≤ v.natAbs →
      (∃ f, formatInt v = .error f ∧ f.category = .arithmetic) ∧
      (∀ store, ∃ f, evalArithmetic store (Numeral.decimal v) = .error f ∧
        f.category = .invalidSyntax) ∧
      ∀ w, ¬Numeral.Denotes (trim (Numeral.decimal v)) w) := by
  have htrim : trim (Numeral.decimal v) = Numeral.decimal v :=
    Text.trim_eq_self fun _ => Numeral.isBlank_of_mem_decimal
  constructor
  · intro hbound
    rw [formatInt_eq, if_pos hbound]
    refine ⟨Numeral.decimal v, rfl, fun store => ?_, fun c name rest hopen hinput => ?_⟩
    · rw [evalArithmetic_decimal, if_pos hbound]
    · have hlines : c.input = Numeral.decimal v :: streamLines rest := by
        have hline := newline_not_mem_decimal v
        rcases hinput with hinput | ⟨hinput, rfl⟩
        · exact hinput.trans (streamLines_of_line hline rest)
        · exact hinput.trans (streamLines_of_last hline (Numeral.decimal_ne_nil v))
      have hdenotes : Numeral.Denotes (trim (Numeral.decimal v)) v := by
        rw [htrim]
        exact Numeral.denotes_decimal_iff.mpr ⟨hbound, rfl⟩
      rw [Console.readInteger_of_denotes hopen hlines hdenotes name]
      exact ⟨rfl, rfl⟩
  · intro hbound
    have hnot : ¬v.natAbs < 10 ^ Numeral.digitLimit := Nat.not_lt.mpr hbound
    rw [formatInt_eq, if_neg hnot]
    refine ⟨⟨_, rfl, rfl⟩, fun store => ?_, fun w hw => ?_⟩
    · rw [evalArithmetic_decimal, if_neg hnot]
      exact ⟨_, rfl, rfl⟩
    · rw [htrim, Numeral.denotes_decimal_iff] at hw
      exact hnot hw.1

/-- A negative integer, read back in an expression and at the console, and the least positive one
that is not written. -/
theorem decimal_readBack_bounds :
    let c : Console := { input := streamLines ['-', '1', '2', '0', '\n', '7'] }
    (formatInt (-120) = .ok ['-', '1', '2', '0'] ∧
      evalArithmetic .empty ['-', '1', '2', '0'] = .ok (.int (-120)) ∧
      (c.readInteger ['n']).result = .ok (-120) ∧
      (c.readInteger ['n']).console =
        { input := [['7']], written := #[Console.prompt ['n']], flushes := 1 }) ∧
    ∃ f, formatInt (10 ^ Numeral.digitLimit) = .error f ∧ f.category = .arithmetic := by
  intro c
  have hbound : ((10 : Int) ^ Numeral.digitLimit).natAbs = 10 ^ Numeral.digitLimit := by
    simp [Int.natAbs_pow]
  refine ⟨?_, ((decimal_readBack (10 ^ Numeral.digitLimit)).2 hbound.ge).1⟩
  have hwritten : formatInt (-120) = .ok ['-', '1', '2', '0'] := by decide +kernel
  obtain ⟨t, ht, heval, hread⟩ := (decimal_readBack (-120)).1 (by decide +kernel)
  obtain rfl := Except.ok.inj (ht.symm.trans hwritten)
  exact ⟨hwritten, heval .empty, hread c ['n'] ['7'] rfl (.inl rfl)⟩

end LineScript
