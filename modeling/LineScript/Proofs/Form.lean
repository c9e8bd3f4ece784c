import LineScript.Proofs.CharClass
import LineScript.Statement
import Mathlib.Data.List.Basic
import Mathlib.Data.List.DropRight

/-!
# The forms of statements

A line is read by trying five ways to take it apart, each of which looks at it from the left. Here
the forms are stated as what the whole line is made of, with blanks of any number and kind between
the pieces: `KeywordForm` for a keyword and what it applies to, `AssignmentForm` for a word, the
sign `=` and an expression.

Neither relation says how the pieces are found. That there is only one way to find them is drawn
from the comparison with the functions that do: a keyword ends at the first blank, a word at the
first blank or `=`, and an expression starts at the first character behind them that is not blank.
A line can have a keyword form and the form of an assignment, as `print = 5` has, and then the
keyword counts; but a sign directly behind the word leaves no room for a keyword.
-/

namespace LineScript.Statement

open Text

/-! ### The forms -/

/-- A line is what is left of a text without the blanks at its end. -/
def TrimsTo (t line : Text) : Prop :=
  ∃ w, t = line ++ w ∧ allBlank w = true ∧ ∀ c ∈ line.getLast?, isBlank c = false

/-- A line is made of a keyword, at least one blank and the rest. -/
def LeadsTo (keyword line rest : Text) : Prop :=
  ∃ w, w ≠ [] ∧ allBlank w = true ∧ line = keyword ++ (w ++ rest)

/-- Whether a text can be the expression of a statement: it starts with a character that is not
blank and holds no line feed. -/
def IsExpressionText (e : Text) : Prop :=
  (∃ c ∈ e.head?, isBlank c = false) ∧ '\n' ∉ e

/-- A line has the form of a keyword and what it applies to. -/
inductive KeywordForm (line : Text) : Action → Prop where
  | input {t : Text} : LeadsTo ['i', 'n', 'p', 'u', 't'] line t → t ≠ [] →
      (∀ c ∈ t, isBlank c = false) → KeywordForm line (.input t)
  | output {e : Text} : LeadsTo ['p', 'r', 'i', 'n', 't'] line e → IsExpressionText e →
      KeywordForm line (.output e)
  | branch {e : Text} : LeadsTo ['i', 'f'] line e → IsExpressionText e →
      KeywordForm line (.branch e)
  | jump {e : Text} : LeadsTo ['g', 'o', 't', 'o'] line e → IsExpressionText e →
      KeywordForm line (.jump e)

/-- Whether a text can stand in front of the sign of an assignment. -/
def IsTargetText (t : Text) : Prop := t ≠ [] ∧ ∀ c ∈ t, isBlank c = false ∧ c ≠ '='

/-- A line has the form of an assignment: a word, the sign `=`, which no second one follows, and an
expression, with blanks around the sign or without. -/
inductive AssignmentForm (line : Text) : Action → Prop where
  | assignment {t w w' e : Text} : IsTargetText t → allBlank w = true → allBlank w' = true →
      IsExpressionText e → (w' ++ e).head? ≠ some '=' →
      line = t ++ (w ++ '=' :: (w' ++ e)) → AssignmentForm line (.assignment t e)

/-! ### Blanks at an end -/

theorem allBlank_takeWhile (t : Text) : allBlank (t.takeWhile isBlank) = true :=
  List.all_takeWhile

theorem takeWhile_append_trimLeft (t : Text) : t.takeWhile isBlank ++ trimLeft t = t :=
  List.takeWhile_append_dropWhile

theorem trimLeft_eq_self {t : Text} (h : ∀ c ∈ t.head?, isBlank c = false) : trimLeft t = t :=
  dropWhile_append_of_head (List.forall_mem_nil _) h

theorem trimsTo_trimRight (t : Text) : TrimsTo t (trimRight t) := by
  refine ⟨t.rtakeWhile isBlank, (List.rdropWhile_append_rtakeWhile).symm,
    List.all_eq_true.mpr fun c => List.mem_rtakeWhile_imp, fun c hc => ?_⟩
  rw [trimRight, List.getLast?_reverse] at hc
  exact eq_false_of_head?_dropWhile hc

theorem TrimsTo.eq_trimRight {t line : Text} (h : TrimsTo t line) : line = trimRight t := by
  obtain ⟨w, rfl, hw, hlast⟩ := h
  rw [← List.head?_reverse] at hlast
  have hblank : ∀ c ∈ w.reverse, isBlank c = true := fun c hc =>
    List.all_eq_true.mp hw c (List.mem_reverse.mp hc)
  rw [trimRight, List.reverse_append, dropWhile_append_of_head hblank hlast, List.reverse_reverse]

/-! ### Keywords -/

theorem afterWord?_eq_some_iff {word t rest : Text} :
    afterWord? word t = some rest ↔ t = word ++ rest := by
  fun_induction afterWord? word t with
  | case1 t => simp
  | case2 c word => simp
  | case3 c word t ih => simpa using ih
  | case4 c word d t hne => simp [Ne.symm hne]

/-- What follows a keyword and blanks is the rest that does not start with a blank. -/
theorem afterKeyword?_eq_some_iff {keyword line rest : Text} :
    afterKeyword? keyword line = some rest ↔
      LeadsTo keyword line rest ∧ ∀ c ∈ rest.head?, isBlank c = false := by
  constructor
  · intro h
    unfold afterKeyword? at h
    split at h
    · rename_i c tail htail
      split at h <;> cases h
      rename_i hblank
      have hline := afterWord?_eq_some_iff.mp htail
      refine ⟨⟨c :: tail.takeWhile isBlank, List.cons_ne_nil _ _, ?_, ?_⟩, fun d hd => ?_⟩
      · rw [allBlank, List.all_cons, hblank, Bool.true_and]
        exact allBlank_takeWhile tail
      · rw [List.cons_append, takeWhile_append_trimLeft, hline]
      · exact eq_false_of_head?_dropWhile hd
    · cases h
  · rintro ⟨⟨w, hne, hw, rfl⟩, hhead⟩
    obtain ⟨c, w, rfl⟩ := List.exists_cons_of_ne_nil hne
    obtain ⟨hc, hw⟩ : isBlank c = true ∧ allBlank w = true := by
      simpa [allBlank] using hw
    have hword : afterWord? keyword (keyword ++ (c :: w ++ rest)) = some (c :: (w ++ rest)) :=
      afterWord?_eq_some_iff.mpr rfl
    rw [afterKeyword?, hword]
    simp [hc, trimLeft_append hw, trimLeft_eq_self hhead]

theorem IsExpressionText.head {e : Text} (h : IsExpressionText e) :
    ∀ c ∈ e.head?, isBlank c = false := by
  obtain ⟨⟨d, hd, hblank⟩, -⟩ := h
  intro c hc
  rwa [Option.mem_unique hc hd]

theorem isExpression_iff {e : Text} (h : ∀ c ∈ e.head?, isBlank c = false) :
    isExpression e = true ↔ IsExpressionText e := by
  cases e with
  | nil => simp [isExpression, IsExpressionText]
  | cons c e => simp [isExpression, IsExpressionText, h c rfl]

theorem keywordForm?_eq_some_iff {keyword line e : Text} :
    keywordForm? keyword line = some e ↔ LeadsTo keyword line e ∧ IsExpressionText e := by
  constructor
  · intro h
    obtain ⟨rest, hrest, h⟩ := Option.bind_eq_some_iff.mp h
    obtain ⟨hexpression, ⟨⟩⟩ := Option.ite_none_right_eq_some.mp h
    obtain ⟨hleads, hhead⟩ := afterKeyword?_eq_some_iff.mp hrest
    exact ⟨hleads, (isExpression_iff hhead).mp hexpression⟩
  · rintro ⟨hleads, he⟩
    rw [keywordForm?, afterKeyword?_eq_some_iff.mpr ⟨hleads, he.head⟩]
    exact if_pos ((isExpression_iff he.head).mpr he)

theorem inputForm?_eq_some_iff {line : Text} {a : Action} :
    inputForm? line = some a ↔ ∃ t, a = .input t ∧ LeadsTo ['i', 'n', 'p', 'u', 't'] line t ∧
      t ≠ [] ∧ ∀ c ∈ t, isBlank c = false := by
  constructor
  · intro h
    obtain ⟨t, ht, h⟩ := Option.bind_eq_some_iff.mp h
    obtain ⟨hword, ⟨⟩⟩ := Option.ite_none_right_eq_some.mp h
    obtain ⟨hleads, -⟩ := afterKeyword?_eq_some_iff.mp ht
    exact ⟨t, rfl, hleads, by simpa using hword⟩
  · rintro ⟨t, rfl, hleads, hne, hword⟩
    have hhead : ∀ c ∈ t.head?, isBlank c = false := fun c hc => hword c (List.mem_of_mem_head? hc)
    rw [inputForm?, afterKeyword?_eq_some_iff.mpr ⟨hleads, hhead⟩]
    exact if_pos (by simpa [hne] using hword)

/-- The action of a line in one of the forms that start with a keyword. -/
def keywordAction? (line : Text) : Option Action :=
  inputForm? line
    <|> (keywordForm? ['p', 'r', 'i', 'n', 't'] line).map .output
    <|> (keywordForm? ['i', 'f'] line).map .branch
    <|> (keywordForm? ['g', 'o', 't', 'o'] line).map .jump

theorem actionOf?_eq (line : Text) :
    actionOf? line = (keywordAction? line).or (assignmentForm? line) := by
  simp only [actionOf?, keywordAction?, Option.orElse_eq_orElse, Option.orElse_eq_or,
    Option.or_assoc]

section OtherKeyword

variable {keyword keyword' line rest : Text}

/-- A line that starts with one keyword is not taken apart at another. -/
theorem afterKeyword?_eq_none (h : LeadsTo keyword line rest)
    (hother : ∀ t, afterWord? keyword' (keyword ++ t) = none) :
    afterKeyword? keyword' line = none := by
  obtain ⟨w, -, -, rfl⟩ := h
  rw [afterKeyword?, hother]

theorem keywordForm?_eq_none (h : LeadsTo keyword line rest)
    (hother : ∀ t, afterWord? keyword' (keyword ++ t) = none) :
    keywordForm? keyword' line = none := by
  rw [keywordForm?, afterKeyword?_eq_none h hother]
  rfl

theorem inputForm?_eq_none (h : LeadsTo keyword line rest)
    (hother : ∀ t, afterWord? ['i', 'n', 'p', 'u', 't'] (keyword ++ t) = none) :
    inputForm? line = none := by
  rw [inputForm?, afterKeyword?_eq_none h hother]
  rfl

end OtherKeyword

/-- The forms with a keyword are recognised, and none of them gets in the way of another. -/
theorem keywordAction?_eq_some_iff {line : Text} {a : Action} :
    keywordAction? line = some a ↔ KeywordForm line a := by
  simp only [keywordAction?, Option.orElse_eq_orElse, Option.orElse_eq_or]
  constructor
  · intro h
    simp only [Option.or_eq_some_iff, Option.map_eq_some_iff, keywordForm?_eq_some_iff,
      inputForm?_eq_some_iff] at h
    rcases h with ⟨t, rfl, hleads, hne, hword⟩ | ⟨-, ⟨e, ⟨hleads, he⟩, rfl⟩ |
      ⟨-, ⟨e, ⟨hleads, he⟩, rfl⟩ | ⟨-, e, ⟨hleads, he⟩, rfl⟩⟩⟩
    · exact .input hleads hne hword
    · exact .output hleads he
    · exact .branch hleads he
    · exact .jump hleads he
  · intro h
    cases h with
    | @input t hleads hne hword =>
      rw [inputForm?_eq_some_iff.mpr ⟨t, rfl, hleads, hne, hword⟩]
      rfl
    | output hleads he =>
      rw [inputForm?_eq_none hleads fun _ => rfl, keywordForm?_eq_some_iff.mpr ⟨hleads, he⟩]
      rfl
    | branch hleads he =>
      rw [inputForm?_eq_none hleads fun _ => rfl, keywordForm?_eq_none hleads fun _ => rfl,
        keywordForm?_eq_some_iff.mpr ⟨hleads, he⟩]
      rfl
    | jump hleads he =>
      have hprint : keywordForm? ['p', 'r', 'i', 'n', 't'] line = none :=
        keywordForm?_eq_none hleads fun _ => rfl
      have hif : keywordForm? ['i', 'f'] line = none := keywordForm?_eq_none hleads fun _ => rfl
      rw [inputForm?_eq_none hleads fun _ => rfl, hprint, hif,
        keywordForm?_eq_some_iff.mpr ⟨hleads, he⟩]
      rfl

/-! ### Assignments -/

theorem isTargetText_iff {t : Text} :
    IsTargetText t ↔ t ≠ [] ∧ t.all isTargetChar = true := by
  simp [IsTargetText, isTargetChar]

theorem IsTargetText.isTargetChar {t : Text} (h : IsTargetText t) :
    ∀ c ∈ t, isTargetChar c = true :=
  List.all_eq_true.mp (isTargetText_iff.mp h).2

/-- Blanks and a sign end the word in front of them. -/
theorem isTargetChar_of_head? {w rest : Text} (hw : allBlank w = true) :
    ∀ c ∈ (w ++ '=' :: rest).head?, isTargetChar c = false := by
  intro c hc
  cases w with
  | nil =>
    obtain rfl : '=' = c := Option.some.inj hc
    decide +kernel
  | cons d w =>
    obtain rfl : d = c := Option.some.inj hc
    simp [isTargetChar, List.all_eq_true.mp hw d List.mem_cons_self]

theorem assignmentForm?_eq_some_iff {line : Text} {a : Action} :
    assignmentForm? line = some a ↔ AssignmentForm line a := by
  have hequal : isBlank '=' = false := by decide +kernel
  constructor
  · intro h
    unfold assignmentForm? at h
    split at h
    · rename_i c target rest htarget hrest
      obtain ⟨⟨hsign, he⟩, ⟨⟩⟩ := Option.ite_none_right_eq_some.mp h
      have hchars : (c :: target).all isTargetChar = true := by
        rw [← htarget]
        exact List.all_takeWhile
      have hline : line = c :: target ++
          ((line.dropWhile isTargetChar).takeWhile isBlank ++ '=' :: rest) := by
        rw [← hrest, takeWhile_append_trimLeft, ← htarget, List.takeWhile_append_dropWhile]
      have hexpression := (isExpression_iff fun d hd => eq_false_of_head?_dropWhile hd).mp he
      rw [← takeWhile_append_trimLeft rest] at hsign hline
      exact .assignment (isTargetText_iff.mpr ⟨List.cons_ne_nil _ _, hchars⟩)
        (allBlank_takeWhile _) (allBlank_takeWhile rest) hexpression hsign hline
    · cases h
  · intro h
    cases h with
    | @assignment t w w' e ht hw hw' he hsign hline =>
      have htarget := ht.isTargetChar
      have hend : ∀ c ∈ (w ++ '=' :: (w' ++ e)).head?, isTargetChar c = false :=
        isTargetChar_of_head? hw
      have hrest : trimLeft (w' ++ e) = e := by rw [trimLeft_append hw', trimLeft_eq_self he.head]
      obtain ⟨c, t, rfl⟩ := List.exists_cons_of_ne_nil ht.1
      rw [assignmentForm?, hline, takeWhile_append_of_head htarget hend,
        dropWhile_append_of_head htarget hend, trimLeft_append hw,
        trimLeft_cons_of_not_isBlank hequal]
      show (if _ then some (Action.assignment (c :: t) (trimLeft (w' ++ e))) else none) = _
      rw [hrest, if_pos ⟨hsign, (isExpression_iff he.head).mpr he⟩]

/-! ### Choosing between the forms -/

/-- A keyword could itself stand in front of the sign of an assignment. -/
theorem KeywordForm.exists_keyword {line : Text} {a : Action} (h : KeywordForm line a) :
    ∃ keyword rest, LeadsTo keyword line rest ∧ IsTargetText keyword := by
  cases h with
  | input hleads =>
    exact ⟨_, _, hleads, isTargetText_iff.mpr ⟨List.cons_ne_nil _ _, by decide +kernel⟩⟩
  | output hleads | branch hleads | jump hleads =>
    exact ⟨_, _, hleads, isTargetText_iff.mpr ⟨List.cons_ne_nil _ _, by decide +kernel⟩⟩

/-- A sign directly behind the word leaves no room for the blank that ends a keyword. -/
theorem not_keywordForm {t rest : Text} {a : Action} (ht : IsTargetText t) :
    ¬KeywordForm (t ++ '=' :: rest) a := by
  intro h
  obtain ⟨keyword, rest', ⟨w, hne, hw, hline⟩, hkeyword⟩ := h.exists_keyword
  obtain ⟨d, w, rfl⟩ := List.exists_cons_of_ne_nil hne
  have hblank : isBlank d = true := List.all_eq_true.mp hw d List.mem_cons_self
  -- both readings cut the line where the first word ends
  have hsign : (t ++ '=' :: rest).dropWhile isTargetChar = '=' :: rest :=
    dropWhile_append_of_head ht.isTargetChar (isTargetChar_of_head? (w := []) rfl)
  rw [hline, dropWhile_append_of_head hkeyword.isTargetChar
    (by simp [isTargetChar, hblank])] at hsign
  obtain rfl : d = '=' := (List.cons.inj hsign).1
  exact absurd hblank (by decide +kernel)

/-- The action of a line is that of its keyword form, and without one that of its form of an
assignment. -/
theorem actionOf?_eq_some_iff {line : Text} {a : Action} :
    actionOf? line = some a ↔
      KeywordForm line a ∨ (∀ b, ¬KeywordForm line b) ∧ AssignmentForm line a := by
  have hnone : keywordAction? line = none ↔ ∀ b, ¬KeywordForm line b := by
    simp only [Option.eq_none_iff_forall_ne_some, ne_eq, keywordAction?_eq_some_iff]
  rw [actionOf?_eq, Option.or_eq_some_iff, keywordAction?_eq_some_iff,
    assignmentForm?_eq_some_iff, hnone]

theorem parse_eq_ok_iff {t : Text} {s : Statement} :
    parse t = .ok s ↔ s.text = trimRight t ∧ actionOf? (trimRight t) = some s.action := by
  unfold parse
  dsimp only
  split
  · rename_i action haction
    rw [haction]
    constructor
    · rintro ⟨⟩
      exact ⟨rfl, rfl⟩
    · rintro ⟨htext, ⟨⟩⟩
      rw [← htext]
  · rename_i haction
    simp [haction]

/-- A line is refused when it has none of the forms. -/
theorem parse_eq_error {t : Text} (hkeyword : ∀ a, ¬KeywordForm (trimRight t) a)
    (hassignment : ∀ a, ¬AssignmentForm (trimRight t) a) :
    parse t = .error (.unrecognizedStatement (trimRight t)) := by
  have haction : actionOf? (trimRight t) = none := by
    rw [Option.eq_none_iff_forall_ne_some]
    intro a ha
    rcases actionOf?_eq_some_iff.mp ha with h | ⟨-, h⟩
    · exact hkeyword a h
    · exact hassignment a h
  rw [parse, haction]

/-- **Statements are told apart by their forms alone.** Every text is a line and blanks at its end.
The line has at most one keyword form and at most one form of an assignment, with the words and
expressions in them; the statement on it is that of the keyword form, or else that of the
assignment, and a line with neither is invalid. A word, the sign with a blank behind it and an
expression are an assignment, whatever the word. -/
theorem parse_forms :
    (∀ t : Text, ∃ line, TrimsTo t line ∧
      (∀ a b, KeywordForm line a → KeywordForm line b → a = b) ∧
      (∀ a b, AssignmentForm line a → AssignmentForm line b → a = b) ∧
      (∀ s, parse t = .ok s ↔ s.text = line ∧ (KeywordForm line s.action ∨
        (∀ a, ¬KeywordForm line a) ∧ AssignmentForm line s.action)) ∧
      ((∀ a, ¬KeywordForm line a) → (∀ a, ¬AssignmentForm line a) →
        ∃ f, parse t = .error f ∧ f.category = .invalidSyntax)) ∧
    ∀ t e : Text, IsTargetText t → IsExpressionText e → (∀ c ∈ e.getLast?, isBlank c = false) →
      parse (t ++ '=' :: ' ' :: e) = .ok ⟨t ++ '=' :: ' ' :: e, .assignment t e⟩ := by
  refine ⟨fun t => ⟨trimRight t, trimsTo_trimRight t, fun a b ha hb => ?_, fun a b ha hb => ?_,
    fun s => ?_, fun hkeyword hassignment => ?_⟩, fun t e ht he hlast => ?_⟩
  · rw [← keywordAction?_eq_some_iff] at ha hb
    exact Option.some.inj (ha.symm.trans hb)
  · rw [← assignmentForm?_eq_some_iff] at ha hb
    exact Option.some.inj (ha.symm.trans hb)
  · rw [parse_eq_ok_iff, actionOf?_eq_some_iff]
  · exact ⟨_, parse_eq_error hkeyword hassignment, rfl⟩
  · have hform : AssignmentForm (t ++ '=' :: ' ' :: e) (.assignment t e) :=
      @AssignmentForm.assignment _ t [] [' '] e ht rfl (by decide +kernel) he (by simp) rfl
    have htrim : TrimsTo (t ++ '=' :: ' ' :: e) (t ++ '=' :: ' ' :: e) := by
      obtain ⟨⟨c, hc, -⟩, -⟩ := he
      obtain ⟨tail, rfl⟩ := List.head?_eq_some_iff.mp hc
      exact ⟨[], (List.append_nil _).symm, rfl, by simpa using hlast⟩
    rw [parse_eq_ok_iff, ← htrim.eq_trimRight, actionOf?_eq_some_iff]
    exact ⟨rfl, .inr ⟨fun _ => not_keywordForm ht, hform⟩⟩

/-- The line `if = 1`, with a tab behind it, has the form of a condition and that of an assignment,
and counts as a condition; with the sign moved to the word, `if= =1` is an assignment. The
comparison `x == 1` is not a statement. -/
theorem parse_forms_keyword :
    let line : Text := ['i', 'f', ' ', '=', ' ', '1']
    parse (line ++ ['\t']) = .ok ⟨line, .branch ['=', ' ', '1']⟩ ∧
      (∀ a, AssignmentForm line a → a = .assignment ['i', 'f'] ['1']) ∧
      parse ['i', 'f', '=', ' ', '=', '1'] =
        .ok ⟨['i', 'f', '=', ' ', '=', '1'], .assignment ['i', 'f'] ['=', '1']⟩ ∧
      ∃ f, parse ['x', ' ', '=', '=', ' ', '1'] = .error f ∧ f.category = .invalidSyntax := by
  intro line
  have hblank : allBlank [' '] = true := by decide +kernel
  have hbranch : KeywordForm line (.branch ['=', ' ', '1']) :=
    .branch ⟨[' '], List.cons_ne_nil _ _, hblank, rfl⟩ ⟨⟨'=', rfl, by decide +kernel⟩, by decide⟩
  have hassignment : AssignmentForm line (.assignment ['i', 'f'] ['1']) :=
    assignmentForm?_eq_some_iff.mp (by decide +kernel)
  have htarget : IsTargetText ['i', 'f'] :=
    isTargetText_iff.mpr ⟨List.cons_ne_nil _ _, by decide +kernel⟩
  have hlast : ∀ c ∈ ['=', '1'].getLast?, isBlank c = false := by
    intro c hc
    obtain rfl : '1' = c := Option.some.inj hc
    decide +kernel
  obtain ⟨hlines, hsign⟩ := parse_forms
  obtain ⟨line', hline, -, hunique, hparse, -⟩ := hlines (line ++ ['\t'])
  obtain rfl : line' = line := hline.eq_trimRight.trans (by decide +kernel)
  obtain ⟨equal, hequal, -, -, -, hrefused⟩ := hlines ['x', ' ', '=', '=', ' ', '1']
  obtain rfl : equal = ['x', ' ', '=', '=', ' ', '1'] :=
    hequal.eq_trimRight.trans (by decide +kernel)
  refine ⟨(hparse _).mpr ⟨rfl, .inl hbranch⟩, fun a ha => hunique _ _ ha hassignment, ?_, ?_⟩
  · exact hsign ['i', 'f'] ['=', '1'] htarget ⟨⟨'=', rfl, by decide +kernel⟩, by decide⟩ hlast
  · have hkeyword : keywordAction? ['x', ' ', '=', '=', ' ', '1'] = none := by decide +kernel
    have hassign : assignmentForm? ['x', ' ', '=', '=', ' ', '1'] = none := by decide +kernel
    refine hrefused (fun a ha => ?_) fun a ha => ?_
    · cases hkeyword.symm.trans (keywordAction?_eq_some_iff.mpr ha)
    · cases hassign.symm.trans (assignmentForm?_eq_some_iff.mpr ha)

end LineScript.Statement
