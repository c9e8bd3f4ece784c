import LineScript.Proofs.Lexing
import LineScript.Proofs.Operand
import LineScript.Proofs.Spelling

/-!
# What the lexer accepts and what it refuses

A text is cut into tokens without anything being lost: the texts of the tokens, one after the other,
are the text without its blanks (`flatten_of_tokenize`). Conversely tokens that are kept apart by
blanks are read back, whatever they are (`lexes_spaced`).

A text is refused at a place where the part in front has been cut into tokens. There is either a
character with which no token can start, or a word of more than one character that cannot be made
longer on either side (`RefusedAt`). That it cannot be made longer on the left is what is left to
see: in front of a word there can be digits, but never a name, since a name would have gone on over
the word.
-/

namespace LineScript

open Text

/-! ### The texts of tokens -/

/-- The signs of which tokens are made: single characters, and those in front of `=`. -/
def signTexts : List Text :=
  ['+', '-', '*', '/', '<', '>', '(', ')'].map (fun c => [c]) ++
    ['=', '>', '<'].map fun c => [c, '=']

/-- Whether a text is that of a token: ASCII digits, a single character that can start a name, or a
sign. -/
def IsTokenText (t : Text) : Prop := isOperandText t ∨ t ∈ signTexts

theorem isOperandText.word {t : Text} (h : isOperandText t) :
    isNumberWord t = true ∨ ∃ c, t = [c] ∧ isNameStart c = true := by
  rcases h with ⟨hne, hdigits⟩ | hname
  · exact .inl (isNumberWord_of_plain hne hdigits)
  · exact .inr hname

theorem isOperandText.ne_nil {t : Text} (h : isOperandText t) : t ≠ [] := by
  rcases h with ⟨hne, -⟩ | ⟨c, rfl, -⟩
  · exact hne
  · exact List.cons_ne_nil c []

/-- The characters of operands. -/
theorem isOperandText.char {t : Text} (h : isOperandText t) :
    ∀ c ∈ t, isPlainDigit c = true ∨ isNameStart c = true := by
  intro c hc
  rcases h with ⟨-, hdigits⟩ | ⟨d, rfl, hname⟩
  · exact .inl (hdigits c hc)
  · obtain rfl := List.mem_singleton.mp hc
    exact .inr hname

namespace Token

theorem ofText_of_isOperandText {t : Text} (h : isOperandText t) : ofText t = .operand t := by
  refine ofText_of_eq_none ?_ ?_ (Operator.ofText?_eq_none h.word)
  · rintro rfl
    exact absurd (h.char '(' List.mem_cons_self) (by decide)
  · rintro rfl
    exact absurd (h.char ')' List.mem_cons_self) (by decide)

/-- The text of a token stands for a token that can be written. -/
theorem isLexeme_ofText {t : Text} (h : IsTokenText t) : (ofText t).IsLexeme := by
  rcases h with h | h
  · rw [ofText_of_isOperandText h]
    exact h
  · have hsigns : ∀ t ∈ signTexts, ofText t = .leftParen ∨ ofText t = .rightParen ∨
        ∃ op ∈ BinaryOp.all, ofText t = .operator (.binary op) := by decide
    rcases hsigns t h with ht | ht | ⟨op, -, ht⟩
    · simp [ht, IsLexeme]
    · simp [ht, IsLexeme]
    · simp [ht, IsLexeme]

/-- A token that can be written has the text of a token, and this stands for it. -/
theorem IsLexeme.text {token : Token} (h : token.IsLexeme) :
    IsTokenText token.text ∧ ofText token.text = token := by
  cases token with
  | leftParen => exact ⟨.inr (by decide), rfl⟩
  | rightParen => exact ⟨.inr (by decide), rfl⟩
  | operator op =>
    have hsigns : ∀ op ∈ Operator.all, op ≠ .negate → op.spelling ∈ signTexts := by decide
    exact ⟨.inr (hsigns op op.mem_all h), ofText_spelling op⟩
  | operand t => exact ⟨.inl h, ofText_of_isOperandText h⟩

end Token

/-- A class that holds no character of a sign, which is seen by looking at all of them. -/
theorem eq_false_of_mem_signTexts {p : Char → Bool} {t : Text} {c : Char}
    (h : signTexts.all (fun t => t.all fun c => !p c) = true) (ht : t ∈ signTexts) (hc : c ∈ t) :
    p c = false := by
  have hall := List.all_eq_true.mp (List.all_eq_true.mp h t ht) c hc
  rwa [Bool.not_eq_true'] at hall

/-- The text of a token holds no blank. -/
theorem IsTokenText.isBlank {t : Text} (h : IsTokenText t) : ∀ c ∈ t, isBlank c = false := by
  intro c hc
  rcases h with h | h
  · rcases h.char c hc with hdigit | hname
    · exact isBlank_of_isPlainDigit hdigit
    · exact isBlank_of_isNameStart hname
  · exact eq_false_of_mem_signTexts (by decide +kernel) h hc

/-- A text of a token that holds a character which can start a name is this character. -/
theorem IsTokenText.eq_of_isNameStart {t : Text} {c : Char} (h : IsTokenText t) (hc : c ∈ t)
    (hname : isNameStart c = true) : t = [c] := by
  rcases h with (⟨-, hdigits⟩ | ⟨d, rfl, -⟩) | h
  · have hdigit := hdigits c hc
    rw [isPlainDigit_of_isNameStart hname] at hdigit
    cases hdigit
  · rw [List.mem_singleton.mp hc]
  · have hsign : isNameStart c = false := eq_false_of_mem_signTexts (by decide) h hc
    rw [hsign] at hname
    cases hname

/-! ### One token -/

namespace Token

theorem text_of_ofSign? {c : Char} {token : Token} (h : ofSign? c = some token) :
    token.text = [c] := by
  unfold ofSign? at h
  split at h <;> cases h <;> rfl

theorem text_of_ofSignEqual? {c : Char} {token : Token} (h : ofSignEqual? c = some token) :
    token.text = [c, '='] := by
  unfold ofSignEqual? at h
  split at h <;> cases h <;> rfl

theorem scanSign_equal {c : Char} {token : Token} (h : ofSignEqual? c = some token)
    (rest : Text) : scanSign c ('=' :: rest) = .ok (token, rest) := by
  simp [scanSign, h]

/-- A sign is cut off the front of a text, and it would be if the text ended earlier. -/
theorem scanSign_eq_ok {c : Char} {rest rest' : Text} {token : Token}
    (h : scanSign c rest = .ok (token, rest')) :
    ∃ cs, token.text = c :: cs ∧ rest = cs ++ rest' ∧
      ∀ part, part <+: rest' → scanSign c (cs ++ part) = .ok (token, part) := by
  unfold scanSign at h
  split at h
  · rename_i hsign
    cases h
    exact ⟨['='], text_of_ofSignEqual? hsign, rfl, fun part _ => scanSign_equal hsign part⟩
  · rename_i hnot
    cases hsign : ofSign? c with
    | none =>
      rw [hsign] at h
      cases h
    | some token' =>
      rw [hsign] at h
      cases h
      refine ⟨[], text_of_ofSign? hsign, rfl, fun part hpart => scanSign_of_ofSign? hsign ?_⟩
      cases hequal : ofSignEqual? c with
      | none => exact .inl rfl
      | some token' =>
        refine .inr fun hhead => ?_
        obtain ⟨rest', rfl⟩ := List.head?_eq_some_iff.mp (mem_head?_of_isInitial hpart hhead)
        exact hnot rest' token' rfl hequal

/-- A token is cut off the front of a text, and it would be if the text ended earlier. -/
theorem scan_eq_ok {c : Char} {rest rest' : Text} {token : Token}
    (h : scan c rest = .ok (token, rest')) :
    ∃ cs, token.text = c :: cs ∧ rest = cs ++ rest' ∧
      ∀ part, part <+: rest' → scan c (cs ++ part) = .ok (token, part) := by
  unfold scan at h
  split at h
  · rename_i hdigit
    cases h
    refine ⟨_, rfl, List.takeWhile_append_dropWhile.symm, fun part hpart => ?_⟩
    have hdigits : ∀ d ∈ rest.takeWhile isPlainDigit, isPlainDigit d = true :=
      List.all_eq_true.mp List.all_takeWhile
    have hstop : ∀ d ∈ part.head?, isPlainDigit d = false := fun d hd =>
      eq_false_of_head?_dropWhile (mem_head?_of_isInitial hpart hd)
    rw [scan, if_pos hdigit, takeWhile_append_of_head hdigits hstop,
      dropWhile_append_of_head hdigits hstop]
  · rename_i hdigit
    split at h
    · rename_i hname
      split at h <;> cases h
      rename_i hword
      refine ⟨[], rfl, rfl, fun part hpart => ?_⟩
      have hstop : part.takeWhile isWordChar = [] :=
        takeWhile_eq_nil_iff_head?.mpr fun d hd =>
          takeWhile_eq_nil_iff_head?.mp hword d (mem_head?_of_isInitial hpart hd)
      rw [List.nil_append, scan, if_neg hdigit, if_pos hname, hstop]
    · rename_i hname
      obtain ⟨cs, htext, hrest, hpart⟩ := scanSign_eq_ok h
      refine ⟨cs, htext, hrest, fun part hprefix => ?_⟩
      rw [scan, if_neg hdigit, if_neg hname, hpart part hprefix]

end Token

/-! ### Accepted texts -/

theorem filter_trimLeft (t : Text) :
    (trimLeft t).filter (fun c => !isBlank c) = t.filter fun c => !isBlank c := by
  have hblanks : (t.takeWhile isBlank).filter (fun c => !isBlank c) = [] := by
    refine List.filter_eq_nil_iff.mpr fun c hc => ?_
    simpa using List.all_eq_true.mp List.all_takeWhile c hc
  conv_rhs => rw [← List.takeWhile_append_dropWhile (p := isBlank) (l := t)]
  rw [List.filter_append, hblanks]
  rfl

namespace Token

/-- Nothing but blanks is lost when a text is cut into tokens. -/
theorem flatten_of_tokenize {t : Text} {tokens : List Token} (h : tokenize t = .ok tokens) :
    (tokens.map text).flatten = t.filter fun c => !isBlank c := by
  fun_induction tokenize t generalizing tokens with
  | case1 t ht =>
    cases h
    rw [← filter_trimLeft, ht]
    rfl
  | case2 t c rest ht fault hs => cases h
  | case3 t c rest ht token rest' hs ih =>
    cases hrest : tokenize rest' with
    | error fault =>
      rw [hrest] at h
      cases h
    | ok tokens' =>
      rw [hrest] at h
      cases h
      obtain ⟨cs, htext, hcut, -⟩ := scan_eq_ok hs
      have hblank : ∀ d ∈ token.text, (!isBlank d) = true := fun d hd => by
        simp [(isLexeme_of_scan hs).text.1.isBlank d hd]
      have hfront : trimLeft t = token.text ++ rest' := by rw [ht, htext, hcut, List.cons_append]
      rw [List.map_cons, List.flatten_cons, ih hrest, ← filter_trimLeft t, hfront,
        List.filter_append, List.filter_eq_self.mpr hblank]

/-- Tokens that are kept apart by blanks stop where they end. -/
theorem lexes_spaced {pieces : List (Text × Text)}
    (hpieces : ∀ p ∈ pieces, IsTokenText p.1 ∧ allBlank p.2 = true)
    (hgaps : ∀ p ∈ pieces.dropLast, p.2 ≠ []) {before : Text} (hbefore : allBlank before = true) :
    Lexes (pieces.map fun p => ofText p.1) (before ++ pieces.flatMap fun p => p.1 ++ p.2) := by
  induction pieces generalizing before with
  | nil =>
    rw [List.flatMap_nil, List.append_nil]
    exact .nil hbefore
  | cons p pieces ih =>
    obtain ⟨⟨htext, hgap⟩, hrest⟩ := List.forall_mem_cons.mp hpieces
    have hlexes := ih hrest (fun q hq => hgaps q (by cases pieces <;> simp_all)) hgap
    have hhead : ∀ c ∈ (p.2 ++ pieces.flatMap fun p => p.1 ++ p.2).head?, isBlank c = true := by
      intro c hc
      cases hp : p.2 with
      | cons d w =>
        rw [hp] at hgap hc
        obtain rfl : d = c := Option.some.inj hc
        exact List.all_eq_true.mp hgap d List.mem_cons_self
      | nil =>
        -- Without a gap behind it this is the last token.
        cases pieces with
        | nil => simp [hp] at hc
        | cons q pieces => exact absurd hp (hgaps p List.mem_cons_self)
    have hcons := Lexes.cons hbefore (isLexeme_ofText htext) (stops_of_isBlank hhead) hlexes
    rw [text_ofText] at hcons
    rwa [List.map_cons, List.flatMap_cons, List.append_assoc]

end Token

/-! ### Refused texts -/

/-- A word starts as a name does and goes on over characters of words. -/
def IsWord (w : Text) : Prop :=
  ∃ c cs, w = c :: cs ∧ isNameStart c = true ∧ ∀ d ∈ cs, isWordChar d = true

/-- A text is refused between two parts with a fault: the second part starts with a character that
is not blank and with which no token can start, or with a word of at least two characters that can
be made longer on neither side. -/
inductive RefusedAt (before : Text) : Text → Fault → Prop where
  | character {c : Char} {rest : Text} : isBlank c = false →
      (∀ t, IsTokenText t → ¬t <+: c :: rest) →
      RefusedAt before (c :: rest) (.unrecognizedCharacter c)
  | word {w rest : Text} : IsWord w → 2 ≤ w.length →
      (∀ u, u <:+ before → IsWord (u ++ w) → u = []) →
      (∀ v, v <+: rest → IsWord (w ++ v) → v = []) →
      RefusedAt before (w ++ rest) (.longName w)

namespace Token

theorem scanSign_eq_error {c : Char} {rest : Text} {f : Fault} (h : scanSign c rest = .error f) :
    f = .unrecognizedCharacter c ∧ ofSign? c = none ∧
      (ofSignEqual? c = none ∨ rest.head? ≠ some '=') := by
  unfold scanSign at h
  split at h
  · cases h
  · rename_i hnot
    cases hsign : ofSign? c with
    | some token =>
      rw [hsign] at h
      cases h
    | none =>
      rw [hsign] at h
      refine ⟨(Except.error.inj h).symm, rfl, ?_⟩
      cases hequal : ofSignEqual? c with
      | none => exact .inl rfl
      | some token =>
        refine .inr fun hhead => ?_
        obtain ⟨rest', rfl⟩ := List.head?_eq_some_iff.mp hhead
        exact hnot rest' token rfl hequal

theorem cases_of_mem_signTexts {t : Text} (h : t ∈ signTexts) :
    ∃ c, t = [c] ∧ (ofSign? c).isSome = true ∨ t = [c, '='] ∧ (ofSignEqual? c).isSome = true := by
  have hsigns := List.all_eq_true.mp
    (show ['+', '-', '*', '/', '<', '>', '(', ')'].all (fun c => (ofSign? c).isSome) by decide)
  have hequals := List.all_eq_true.mp
    (show ['=', '>', '<'].all (fun c => (ofSignEqual? c).isSome) by decide)
  rcases List.mem_append.mp h with h | h
  · obtain ⟨c, hc, rfl⟩ := List.mem_map.mp h
    exact ⟨c, .inl ⟨rfl, hsigns c hc⟩⟩
  · obtain ⟨c, hc, rfl⟩ := List.mem_map.mp h
    exact ⟨c, .inr ⟨rfl, hequals c hc⟩⟩

/-- Where no sign is found, nothing else than a digit or a name can start. -/
theorem not_prefix_of_scanSign {c : Char} {rest : Text} {f : Fault}
    (hdigit : isPlainDigit c = false) (hname : isNameStart c = false)
    (h : scanSign c rest = .error f) : ∀ t, IsTokenText t → ¬t <+: c :: rest := by
  obtain ⟨-, hsign, hequal⟩ := scanSign_eq_error h
  rintro t (hoperand | ht) hprefix
  · cases t with
    | nil => exact absurd rfl hoperand.ne_nil
    | cons d t =>
      obtain ⟨rfl, -⟩ := List.cons_prefix_cons.mp hprefix
      simpa [hdigit, hname] using hoperand.char d List.mem_cons_self
  · obtain ⟨d, ⟨rfl, hd⟩ | ⟨rfl, hd⟩⟩ := cases_of_mem_signTexts ht
    · obtain ⟨rfl, -⟩ := List.cons_prefix_cons.mp hprefix
      exact absurd hsign (Option.isSome_iff_ne_none.mp hd)
    · obtain ⟨rfl, hrest⟩ := List.cons_prefix_cons.mp hprefix
      rcases hequal with hequal | hequal
      · exact absurd hequal (Option.isSome_iff_ne_none.mp hd)
      · exact hequal (mem_head?_of_isInitial hrest rfl)

theorem scan_eq_error {c : Char} {rest : Text} {f : Fault} (h : scan c rest = .error f) :
    isNameStart c = true ∧ rest.takeWhile isWordChar ≠ [] ∧
        f = .longName (c :: rest.takeWhile isWordChar) ∨
      isPlainDigit c = false ∧ isNameStart c = false ∧ scanSign c rest = .error f := by
  unfold scan at h
  split at h
  · cases h
  · rename_i hdigit
    split at h
    · rename_i hname
      split at h
      · cases h
      · rename_i hmore
        exact .inl ⟨hname, hmore, (Except.error.inj h).symm⟩
    · rename_i hname
      exact .inr ⟨by simpa using hdigit, by simpa using hname, h⟩

/-- A name that has been cut off is not followed by a character of a word. -/
theorem isWordChar_of_scan {c : Char} {rest rest' : Text} {token : Token}
    (h : scan c rest = .ok (token, rest')) (hname : isNameStart c = true) :
    ∀ d ∈ rest'.head?, isWordChar d = false := by
  rw [scan, isPlainDigit_of_isNameStart hname, if_neg Bool.false_ne_true, if_pos hname] at h
  split at h <;> cases h
  rename_i hword
  exact takeWhile_eq_nil_iff_head?.mp hword

end Token

theorem isWord_cons {c : Char} {cs : Text} :
    IsWord (c :: cs) ↔ isNameStart c = true ∧ ∀ d ∈ cs, isWordChar d = true := by
  simp [IsWord, and_assoc]

/-- Where no token is found, a text is refused, if what stands in front holds no character that can
start a name. -/
theorem refusedAt_of_scan {before rest : Text} {c : Char} {f : Fault} (hc : isBlank c = false)
    (hbefore : ∀ d ∈ before, isNameStart d = false) (h : Token.scan c rest = .error f) :
    RefusedAt before (c :: rest) f := by
  rcases Token.scan_eq_error h with ⟨hname, hmore, rfl⟩ | ⟨hdigit, hname, hsign⟩
  · have hword : ∀ d ∈ rest.takeWhile isWordChar, isWordChar d = true :=
      List.all_eq_true.mp List.all_takeWhile
    have hcut : c :: rest = (c :: rest.takeWhile isWordChar) ++ rest.dropWhile isWordChar := by
      rw [List.cons_append, List.takeWhile_append_dropWhile]
    rw [hcut]
    refine .word (isWord_cons.mpr ⟨hname, hword⟩) ?_ ?_ ?_
    · exact Nat.succ_le_succ (List.length_pos_iff.mpr hmore)
    · intro u hu hlonger
      cases u with
      | nil => rfl
      | cons d u =>
        have hd := hbefore d (hu.subset List.mem_cons_self)
        rw [(isWord_cons.mp hlonger).1] at hd
        cases hd
    · intro v hv hlonger
      cases v with
      | nil => rfl
      | cons d v =>
        have hd : isWordChar d = false :=
          eq_false_of_head?_dropWhile (mem_head?_of_isInitial hv rfl)
        rw [(isWord_cons.mp hlonger).2 d (by simp)] at hd
        cases hd
  · obtain ⟨rfl, -⟩ := Token.scanSign_eq_error hsign
    exact .character hc (Token.not_prefix_of_scanSign hdigit hname hsign)

/-- A text is still refused behind more text, if a name in it would not go on over what follows. -/
theorem RefusedAt.append_left {x before rest : Text} {f : Fault} (h : RefusedAt before rest f)
    (hx : ∀ d ∈ x, isNameStart d = true → ∀ e ∈ (before ++ rest).head?, isWordChar e = false) :
    RefusedAt (x ++ before) rest f := by
  cases h with
  | character hc hnone => exact .character hc hnone
  | @word w rest hw hlen hleft hright =>
    refine .word hw hlen (fun u hu hlonger => ?_) hright
    obtain ⟨y, hy⟩ := hu
    rcases List.append_eq_append_iff.mp hy with ⟨s, rfl, rfl⟩ | ⟨s, rfl, rfl⟩
    · cases s with
      | nil => exact hleft before List.suffix_rfl hlonger
      | cons d s =>
        -- The word would start inside the text in front, with a name, and go on over what follows.
        obtain ⟨hname, hword⟩ := isWord_cons.mp hlonger
        obtain ⟨c, cs, rfl, -, -⟩ := hw
        obtain ⟨e, he⟩ : ∃ e, e ∈ (before ++ (c :: cs)).head? := by
          cases before <;> exact ⟨_, rfl⟩
        have hfalse : isWordChar e = false :=
          hx d (by simp) hname e (mem_head?_of_isInitial (by simp) he)
        have hmem := List.mem_of_mem_head? he
        rw [hword e (by simp_all)] at hfalse
        cases hfalse
    · exact hleft u (List.suffix_append s u) hlonger

namespace Token

/-- Where a text is refused, the part in front has been cut into tokens. -/
theorem refusedAt_of_tokenize {t : Text} {f : Fault} (h : tokenize t = .error f) :
    ∃ before rest, t = before ++ rest ∧ (∃ tokens, tokenize before = .ok tokens) ∧
      RefusedAt before rest f := by
  fun_induction tokenize t with
  | case1 t ht => cases h
  | case2 t c rest ht fault hs =>
    cases h
    have hblanks : allBlank (t.takeWhile isBlank) = true := List.all_takeWhile
    have hnames : ∀ d ∈ t.takeWhile isBlank, isNameStart d = false := fun d hd =>
      isNameStart_of_isBlank (List.all_eq_true.mp hblanks d hd)
    refine ⟨t.takeWhile isBlank, c :: rest, ?_, ⟨[], ?_⟩, ?_⟩
    · rw [← ht, trimLeft, List.takeWhile_append_dropWhile]
    · exact tokenize_of_trimLeft_eq_nil (trimLeft_of_allBlank hblanks)
    · exact refusedAt_of_scan (isBlank_of_trimLeft ht) hnames hs
  | case3 t c rest ht token rest' hs ih =>
    obtain ⟨before, rest'', rfl, ⟨tokens, htokens⟩, hrefused⟩ := ih (by
      cases hrest : tokenize rest' with
      | ok tokens => simp [hrest, Except.map] at h
      | error fault => simpa [hrest, Except.map] using h)
    obtain ⟨cs, htext, rfl, hscan⟩ := scan_eq_ok hs
    have hblanks : allBlank (t.takeWhile isBlank) = true := List.all_takeWhile
    refine ⟨t.takeWhile isBlank ++ token.text ++ before, rest'', ?_, ⟨token :: tokens, ?_⟩, ?_⟩
    · rw [List.append_assoc, List.append_assoc, htext, List.cons_append, ← ht, trimLeft,
        List.takeWhile_append_dropWhile]
    · have htrim : trimLeft (t.takeWhile isBlank ++ token.text ++ before) =
          c :: (cs ++ before) := by
        rw [List.append_assoc, trimLeft_append hblanks, htext, List.cons_append,
          trimLeft_cons_of_not_isBlank (isBlank_of_trimLeft ht)]
      rw [tokenize_of_scan htrim (hscan before (List.prefix_append before rest'')), htokens]
      rfl
    · refine hrefused.append_left fun d hd hname => ?_
      rcases List.mem_append.mp hd with hd | hd
      · rw [isNameStart_of_isBlank (List.all_eq_true.mp hblanks d hd)] at hname
        cases hname
      · have hsingle := (isLexeme_of_scan hs).text.1.eq_of_isNameStart hd hname
        rw [htext] at hsingle
        obtain ⟨rfl, -⟩ := List.cons.inj hsingle
        exact isWordChar_of_scan hs hname

/-- **What the lexer does with any text.** If it cuts the text into tokens, these are texts of
tokens which together make up the text without its blanks, and tokens that are kept apart by blanks
are what a text is cut into. If it refuses the text, it names a character at which no token can
start or a word of at least two characters, behind a part of the text that can be cut into tokens.
Whenever it cuts off a token, less of the text is left. -/
theorem tokenize_exact (t : Text) :
    (∀ tokens, tokenize t = .ok tokens → ∃ ts : List Text, tokens = ts.map ofText ∧
      (∀ x ∈ ts, IsTokenText x) ∧ ts.flatten = t.filter fun c => !isBlank c) ∧
    (∀ (before : Text) (pieces : List (Text × Text)), allBlank before = true →
      (∀ p ∈ pieces, IsTokenText p.1 ∧ allBlank p.2 = true) → (∀ p ∈ pieces.dropLast, p.2 ≠ []) →
      t = (before ++ pieces.flatMap fun p => p.1 ++ p.2) →
      tokenize t = .ok (pieces.map fun p => ofText p.1)) ∧
    (∀ f, tokenize t = .error f → f.category = .invalidSyntax ∧
      ∃ before rest, t = before ++ rest ∧ (∃ tokens, tokenize before = .ok tokens) ∧
        RefusedAt before rest f) ∧
    ∀ c rest token rest', trimLeft t = c :: rest → scan c rest = .ok (token, rest') →
      rest'.length < t.length := by
  refine ⟨fun tokens h => ?_, fun before pieces hbefore hpieces hgaps ht => ?_, fun f h => ?_,
    fun c rest token rest' ht hs => ?_⟩
  · have hlexeme := isLexeme_of_tokenize h
    refine ⟨tokens.map text, ?_, ?_, flatten_of_tokenize h⟩
    · have hround : tokens.map (ofText ∘ text) = tokens.map id :=
        List.map_congr_left fun token ht => (hlexeme token ht).text.2
      rw [List.map_map, hround, List.map_id]
    · exact List.forall_mem_map.mpr fun token ht => (hlexeme token ht).text.1
  · rw [ht]
    exact tokenize_of_lexes (lexes_spaced hpieces hgaps hbefore)
  · obtain ⟨before, rest, ht, htokens, hrefused⟩ := refusedAt_of_tokenize h
    refine ⟨?_, before, rest, ht, htokens, hrefused⟩
    cases hrefused <;> rfl
  · have htrim := length_trimLeft_le t
    have hscan := length_of_scan hs
    rw [ht, List.length_cons] at htrim
    omega

/-- The tokens `>`, `12`, `>=` and `_` are read back with blanks between them, although no
expression has them in this order. The first `=` in `> = =` and the word in `1ab` are refused; the
digit in front does not belong to the word. -/
theorem tokenize_exact_apart :
    tokenize [' ', '>', '\t', '1', '2', ' ', '>', '=', ' ', '_'] =
        .ok ([['>'], ['1', '2'], ['>', '='], ['_']].map ofText) ∧
      (∃ before rest, ['>', ' ', '=', ' ', '='] = before ++ rest ∧
        (∃ tokens, tokenize before = .ok tokens) ∧
        RefusedAt before rest (.unrecognizedCharacter '=')) ∧
      ∃ before rest, ['1', 'a', 'b'] = before ++ rest ∧
        (∃ tokens, tokenize before = .ok tokens) ∧
        RefusedAt before rest (.longName ['a', 'b']) := by
  have hdigits : ['1', '2'].all isPlainDigit = true := by decide
  have hnumber : IsTokenText ['1', '2'] :=
    .inl (.inl ⟨List.cons_ne_nil _ _, List.all_eq_true.mp hdigits⟩)
  have hname : IsTokenText ['_'] := .inl (.inr ⟨'_', rfl, rfl⟩)
  have hsign : IsTokenText ['>'] ∧ IsTokenText ['>', '='] := ⟨.inr (by decide), .inr (by decide)⟩
  obtain ⟨-, hspaced, -⟩ := tokenize_exact [' ', '>', '\t', '1', '2', ' ', '>', '=', ' ', '_']
  obtain ⟨-, -, hequal, -⟩ := tokenize_exact ['>', ' ', '=', ' ', '=']
  obtain ⟨-, -, hword, -⟩ := tokenize_exact ['1', 'a', 'b']
  refine ⟨?_, (hequal _ (by decide +kernel)).2, (hword _ (by decide +kernel)).2⟩
  refine hspaced [' '] [(['>'], ['\t']), (['1', '2'], [' ']), (['>', '='], [' ']), (['_'], [])] rfl
    ?_ (by decide) rfl
  simp [hnumber, hname, hsign, allBlank, show isBlank '\t' = true by decide +kernel,
    show isBlank ' ' = true by decide +kernel]

end Token

end LineScript
