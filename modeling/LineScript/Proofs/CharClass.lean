import LineScript.Text.Blank
import LineScript.Text.Digit
import LineScript.Text.Letter

/-!
# How the classes of characters lie to each other

The lexer tells where a token ends by the class of the next character, so it relies on classes
being disjoint: a blank is neither a digit nor part of a word nor a sign, a sign is not part of a
word. The classes are tables of ranges of code points, and a property of every character of a class
is checked on the code points of its ranges (`forall_of_inRanges`).

The last sections are about texts that are cut where a class of characters ends, and about trimming,
which cuts at blanks.
-/

namespace LineScript.Text

/-! ### Properties of the characters of a table -/

/-- A property of all code points of an ascending table can be checked range by range. -/
theorem forall_of_inRanges {table : List (Nat × Nat)} {p : Nat → Bool}
    (hasc : isAscending table = true)
    (hp : (table.all fun r => (List.range' r.1 (r.2 + 1 - r.1)).all p) = true) {n : Nat}
    (hn : inRanges table n = true) : p n = true := by
  obtain ⟨r, hr, h₁, h₂⟩ := (inRanges_iff hasc n).mp hn
  have hall := List.all_eq_true.mp (List.all_eq_true.mp hp r hr)
  refine hall n (List.mem_range'_1.mpr ⟨h₁, ?_⟩)
  omega

/-- A property of all code points between two bounds, of a character between them. -/
theorem forall_of_between {p : Nat → Bool} {first last : Nat}
    (hp : (List.range' first (last + 1 - first)).all p = true) {n : Nat}
    (h₁ : first ≤ n) (h₂ : n ≤ last) : p n = true := by
  refine List.all_eq_true.mp hp n (List.mem_range'_1.mpr ⟨h₁, ?_⟩)
  omega

/-- An ASCII digit lies between `0` and `9`. -/
theorem toNat_of_isPlainDigit {c : Char} (h : isPlainDigit c = true) :
    0x30 ≤ c.toNat ∧ c.toNat ≤ 0x39 := by
  simp only [isPlainDigit, Bool.and_eq_true, decide_eq_true_eq] at h
  exact ⟨h.1, h.2⟩

/-- An ASCII letter is a small or a capital one. -/
theorem toNat_of_isPlainLetter {c : Char} (h : isPlainLetter c = true) :
    (0x61 ≤ c.toNat ∧ c.toNat ≤ 0x7A) ∨ (0x41 ≤ c.toNat ∧ c.toNat ≤ 0x5A) := by
  simp only [isPlainLetter, Bool.or_eq_true, Bool.and_eq_true, decide_eq_true_eq] at h
  exact h

/-! ### Blanks -/

/-- The code points of the blanks lie in no table of letters or numbers, and none of them is that of
an ASCII digit, an ASCII letter or the low line. -/
theorem toNat_of_isBlank {c : Char} (h : isBlank c = true) :
    inRanges letterRanges c.toNat = false ∧ inRanges numberRanges c.toNat = false ∧
      (c.toNat < 0x21 ∨ 0x7F < c.toNat) := by
  have hp := forall_of_inRanges
    (p := fun n => !inRanges letterRanges n && !inRanges numberRanges n &&
      (decide (n < 0x21) || decide (0x7F < n)))
    isAscending_blankRanges (by decide +kernel) h
  simpa [and_assoc] using hp

/-- A word ends at a blank. -/
theorem isWordChar_of_isBlank {c : Char} (h : isBlank c = true) : isWordChar c = false := by
  obtain ⟨hl, hn, hc⟩ := toNat_of_isBlank h
  have hlow : (c == '_') = false := by
    rw [beq_eq_false_iff_ne]
    rintro rfl
    revert h
    decide +kernel
  simp [isWordChar, isLetter, isNumber, hl, hn, hlow]

theorem isBlank_of_isPlainDigit {c : Char} (h : isPlainDigit c = true) : isBlank c = false := by
  have hc := toNat_of_isPlainDigit h
  rw [← Bool.not_eq_true]
  intro hb
  obtain ⟨-, -, hb⟩ := toNat_of_isBlank hb
  omega

theorem isBlank_of_isNameStart {c : Char} (h : isNameStart c = true) : isBlank c = false := by
  rcases Bool.or_eq_true_iff.mp h with hlow | hletter
  · obtain rfl := beq_iff_eq.mp hlow
    decide +kernel
  · have hc := toNat_of_isPlainLetter hletter
    rw [← Bool.not_eq_true]
    intro hb
    obtain ⟨-, -, hb⟩ := toNat_of_isBlank hb
    omega

/-- No name starts with a blank. -/
theorem isNameStart_of_isBlank {c : Char} (h : isBlank c = true) : isNameStart c = false := by
  rw [← Bool.not_eq_true]
  intro hname
  rw [isBlank_of_isNameStart hname] at h
  cases h

/-! ### Digits and names -/

/-- A word goes on over a digit, so that digits and a name behind them are one word. -/
theorem isWordChar_of_isPlainDigit {c : Char} (h : isPlainDigit c = true) :
    isWordChar c = true := by
  obtain ⟨h₁, h₂⟩ := toNat_of_isPlainDigit h
  have hn : isNumber c = true :=
    forall_of_between (p := inRanges numberRanges) (by decide +kernel) h₁ h₂
  simp [isWordChar, hn]

/-- An ASCII digit has its distance from `0` as its value. -/
theorem digitValue?_of_isPlainDigit {c : Char} (h : isPlainDigit c = true) :
    digitValue? c = some (c.toNat - 0x30) := by
  obtain ⟨h₁, h₂⟩ := toNat_of_isPlainDigit h
  have hrun : runStart? decimalRanges c.toNat = some 0x30 := by
    rw [decimalRanges, runStart?, if_neg (by omega), if_pos h₂]
  rw [digitValue?, hrun, Option.map_some, Nat.mod_eq_of_lt (by omega)]

theorem isDigitLike_of_isPlainDigit {c : Char} (h : isPlainDigit c = true) :
    isDigitLike c = true := by
  rw [isDigitLike, digitValue?_of_isPlainDigit h]
  rfl

/-- Whether a code point belongs to a character that is a digit or digit-like. -/
private def isDigitLikeCode (n : Nat) : Bool :=
  (runStart? decimalRanges n).isSome || inRanges digitLikeRanges n

/-- Whether a character is digit-like depends on its code point alone. -/
private theorem isDigitLike_eq (c : Char) : isDigitLike c = isDigitLikeCode c.toNat := by
  rw [isDigitLike, isDigitLikeCode, digitValue?, Option.isSome_map]

theorem isPlainDigit_of_isNameStart {c : Char} (h : isNameStart c = true) :
    isPlainDigit c = false := by
  rw [← Bool.not_eq_true]
  intro hd
  obtain ⟨h₁, h₂⟩ := toNat_of_isPlainDigit hd
  rcases Bool.or_eq_true_iff.mp h with hlow | hletter
  · obtain rfl := beq_iff_eq.mp hlow
    exact absurd h₂ (by decide)
  · have := toNat_of_isPlainLetter hletter
    omega

/-- A name is not taken for a number by its first character. -/
theorem isDigitLike_of_isNameStart {c : Char} (h : isNameStart c = true) :
    isDigitLike c = false := by
  rw [isDigitLike_eq, ← Bool.not_eq_true']
  rcases Bool.or_eq_true_iff.mp h with hlow | hletter
  · obtain rfl := beq_iff_eq.mp hlow
    decide +kernel
  · rcases toNat_of_isPlainLetter hletter with ⟨h₁, h₂⟩ | ⟨h₁, h₂⟩
    · exact forall_of_between (p := fun n => !isDigitLikeCode n) (by decide +kernel) h₁ h₂
    · exact forall_of_between (p := fun n => !isDigitLikeCode n) (by decide +kernel) h₁ h₂

/-- The ASCII letters are in the table of letters. -/
theorem isLetter_of_isPlainLetter {c : Char} (h : isPlainLetter c = true) : isLetter c = true := by
  rcases toNat_of_isPlainLetter h with ⟨h₁, h₂⟩ | ⟨h₁, h₂⟩
  · exact forall_of_between (p := inRanges letterRanges) (by decide +kernel) h₁ h₂
  · exact forall_of_between (p := inRanges letterRanges) (by decide +kernel) h₁ h₂

/-! ### Cutting a text -/

/-- What is cut off in front is all that comes before the first character outside of the class. -/
theorem takeWhile_append_of_head {p : Char → Bool} {ds rest : Text} (hds : ∀ c ∈ ds, p c = true)
    (hrest : ∀ c ∈ rest.head?, p c = false) : (ds ++ rest).takeWhile p = ds := by
  have hnil : rest.takeWhile p = [] := by
    cases rest with
    | nil => rfl
    | cons c rest => rw [List.takeWhile_cons, hrest c rfl]; rfl
  rw [List.takeWhile_append_of_pos hds, hnil, List.append_nil]

/-- What is left starts with the first character outside of the class. -/
theorem dropWhile_append_of_head {p : Char → Bool} {ds rest : Text} (hds : ∀ c ∈ ds, p c = true)
    (hrest : ∀ c ∈ rest.head?, p c = false) : (ds ++ rest).dropWhile p = rest := by
  rw [List.dropWhile_append_of_pos hds]
  cases rest with
  | nil => rfl
  | cons c rest => rw [List.dropWhile_cons, hrest c rfl]; rfl

theorem mem_head?_of_isInitial {t t' : Text} {c : Char} (h : t <+: t') (hc : c ∈ t.head?) :
    c ∈ t'.head? := by
  obtain ⟨more, rfl⟩ := h
  cases t with
  | nil => cases hc
  | cons d t => exact hc

/-- The character at which a text has been cut is outside of the class. -/
theorem eq_false_of_head?_dropWhile {p : Char → Bool} {t : Text} {c : Char}
    (h : c ∈ (t.dropWhile p).head?) : p c = false := by
  have hnot := List.head?_dropWhile_not p t
  rw [Option.mem_def.mp h] at hnot
  exact hnot

/-- Nothing is cut off a text that starts outside of the class. -/
theorem takeWhile_eq_nil_iff_head? {p : Char → Bool} {t : Text} :
    t.takeWhile p = [] ↔ ∀ c ∈ t.head?, p c = false := by
  cases t with
  | nil => simp
  | cons c t => cases hc : p c <;> simp [hc]

/-! ### Trimming -/

/-- Blanks in front of a text do not matter once it is trimmed. -/
theorem trimLeft_append {w : Text} (h : allBlank w = true) (t : Text) :
    trimLeft (w ++ t) = trimLeft t :=
  List.dropWhile_append_of_pos (List.all_eq_true.mp h)

theorem trimLeft_of_allBlank {t : Text} (h : allBlank t = true) : trimLeft t = [] := by
  rw [← List.append_nil t, trimLeft_append h]
  rfl

theorem trimLeft_cons_of_not_isBlank {c : Char} (h : isBlank c = false) (t : Text) :
    trimLeft (c :: t) = c :: t := by
  rw [trimLeft, List.dropWhile_cons, h]
  rfl

/-- A trimmed text does not start with a blank. -/
theorem isBlank_of_trimLeft {t rest : Text} {c : Char} (h : trimLeft t = c :: rest) :
    isBlank c = false :=
  eq_false_of_head?_dropWhile (p := isBlank) (t := t) (by rw [← trimLeft, h]; rfl)

end LineScript.Text
