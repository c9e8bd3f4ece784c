import LineScript.Expr.Tree
import LineScript.Proofs.CharClass
import Mathlib.Data.List.Chain

/-!
# Texts that write a list of tokens

`Lexes tokens t` says that `t` writes the tokens in order, with blanks before, between and after
them, and that every token **stops** where the next piece begins: a longest match would not run over
its end. `tokenize_of_lexes` reads such a text back into exactly its tokens.

`Writes tokens t` asks for blanks only, so tokens may touch. A sentence of the infix grammar can be
written like that without two of its tokens ever running together: between two operands there is
always an operator, and no operator is followed by one that starts with `=`. This is the invariant
`Joins` of neighbouring tokens, which every sentence has (`Sentence.isChain_joins`), and
`tokenize_of_sentence` draws the conclusion.
-/

namespace LineScript

open Text

namespace Token

/-- Whether a token can be written in an infix expression: operands are numbers or names of one
character, and negation shares the sign of subtraction. -/
def IsLexeme : Token → Prop
  | .leftParen => True
  | .rightParen => True
  | .operator op => op ≠ .negate
  | .operand t => isOperandText t

/-- Whether a token ends where a text begins that follows it. -/
def Stops : Token → Text → Prop
  | .leftParen, _ => True
  | .rightParen, _ => True
  | .operator _, rest => rest.head? ≠ some '='
  | .operand _, rest => ∀ c ∈ rest.head?, isWordChar c = false

/-- A text holds tokens in order, among blanks, and each of them stops where it ends. -/
inductive Lexes : List Token → Text → Prop where
  | nil {w : Text} : allBlank w = true → Lexes [] w
  | cons {w rest : Text} {token : Token} {tokens : List Token} :
      allBlank w = true → token.IsLexeme → token.Stops rest → Lexes tokens rest →
      Lexes (token :: tokens) (w ++ (token.text ++ rest))

/-- A text holds tokens in order, among blanks. -/
inductive Writes : List Token → Text → Prop where
  | nil {w : Text} : allBlank w = true → Writes [] w
  | cons {w rest : Text} {token : Token} {tokens : List Token} :
      allBlank w = true → Writes tokens rest → Writes (token :: tokens) (w ++ (token.text ++ rest))

/-! ### One token -/

/-- A sign of one character is all there is at the start of a text, unless it makes a comparison
with the `=` behind it. -/
theorem scanSign_of_ofSign? {c : Char} {rest : Text} {token : Token} (hc : ofSign? c = some token)
    (h : ofSignEqual? c = none ∨ rest.head? ≠ some '=') : scanSign c rest = .ok (token, rest) := by
  unfold scanSign
  split
  · rename_i hequal
    rcases h with h | h
    · rw [hequal] at h
      cases h
    · exact absurd rfl h
  · rw [hc]

theorem scanSign_spelling (op : BinaryOp) {rest : Text} (h : rest.head? ≠ some '=') :
    ∃ c cs, op.spelling = c :: cs ∧ isBlank c = false ∧ isPlainDigit c = false ∧
      isNameStart c = false ∧ scanSign c (cs ++ rest) = .ok (.operator (.binary op), rest) := by
  cases op with
  | arithmetic op =>
    cases op <;>
      exact ⟨_, [], rfl, by decide +kernel, by decide, by decide,
        scanSign_of_ofSign? rfl (.inr h)⟩
  | comparison op =>
    cases op with
    | greater =>
      exact ⟨_, [], rfl, by decide +kernel, by decide, by decide,
        scanSign_of_ofSign? rfl (.inr h)⟩
    | less =>
      exact ⟨_, [], rfl, by decide +kernel, by decide, by decide,
        scanSign_of_ofSign? rfl (.inr h)⟩
    | equal => exact ⟨_, _, rfl, by decide +kernel, by decide, by decide, rfl⟩
    | greaterEqual => exact ⟨_, _, rfl, by decide +kernel, by decide, by decide, rfl⟩
    | lessEqual => exact ⟨_, _, rfl, by decide +kernel, by decide, by decide, rfl⟩

/-- A token is read back from the front of a text in which it stops. -/
theorem scan_text {token : Token} {rest : Text} (hl : token.IsLexeme) (hs : token.Stops rest) :
    ∃ c cs, token.text = c :: cs ∧ isBlank c = false ∧
      scan c (cs ++ rest) = .ok (token, rest) := by
  cases token with
  | leftParen => exact ⟨_, [], rfl, by decide +kernel, scanSign_of_ofSign? rfl (.inl rfl)⟩
  | rightParen => exact ⟨_, [], rfl, by decide +kernel, scanSign_of_ofSign? rfl (.inl rfl)⟩
  | operator op =>
    cases op with
    | negate => exact absurd rfl hl
    | binary op =>
      obtain ⟨c, cs, hop, hb, hd, hn, hscan⟩ := scanSign_spelling op hs
      refine ⟨c, cs, hop, hb, ?_⟩
      rw [scan, hd, hn]
      exact hscan
  | operand t =>
    -- Digits are word characters, so one condition ends both kinds of operand.
    have hword : ∀ c ∈ rest.head?, isWordChar c = false := hs
    rcases hl with ⟨hne, hdigits⟩ | ⟨c, rfl, hname⟩
    · obtain ⟨c, cs, rfl⟩ := List.exists_cons_of_ne_nil hne
      have hc : isPlainDigit c = true := hdigits c List.mem_cons_self
      have hcs : ∀ d ∈ cs, isPlainDigit d = true := fun d hd =>
        hdigits d (List.mem_cons_of_mem c hd)
      have hrest : ∀ d ∈ rest.head?, isPlainDigit d = false := by
        intro d hd
        rw [← Bool.not_eq_true]
        intro hdigit
        exact absurd (hword d hd) (by simp [isWordChar_of_isPlainDigit hdigit])
      refine ⟨c, cs, rfl, isBlank_of_isPlainDigit hc, ?_⟩
      rw [scan, hc, if_pos rfl, takeWhile_append_of_head hcs hrest,
        dropWhile_append_of_head hcs hrest]
    · refine ⟨c, [], rfl, isBlank_of_isNameStart hname, ?_⟩
      have hnil : rest.takeWhile isWordChar = [] :=
        takeWhile_append_of_head (List.forall_mem_nil _) hword
      rw [scan, isPlainDigit_of_isNameStart hname, hname, List.nil_append, hnil]
      rfl

theorem isLexeme_of_ofSign? {c : Char} {token : Token} (h : ofSign? c = some token) :
    token.IsLexeme := by
  unfold ofSign? at h
  split at h <;> cases h <;> simp [IsLexeme]

theorem isLexeme_of_ofSignEqual? {c : Char} {token : Token} (h : ofSignEqual? c = some token) :
    token.IsLexeme := by
  unfold ofSignEqual? at h
  split at h <;> cases h <;> simp [IsLexeme]

theorem isLexeme_of_scanSign {c : Char} {rest rest' : Text} {token : Token}
    (h : scanSign c rest = .ok (token, rest')) : token.IsLexeme := by
  unfold scanSign at h
  split at h
  · rename_i hsign
    cases h
    exact isLexeme_of_ofSignEqual? hsign
  · cases hsign : ofSign? c with
    | none =>
      rw [hsign] at h
      cases h
    | some token' =>
      rw [hsign] at h
      cases h
      exact isLexeme_of_ofSign? hsign

/-- Only tokens that can be written are read. -/
theorem isLexeme_of_scan {c : Char} {rest rest' : Text} {token : Token}
    (h : scan c rest = .ok (token, rest')) : token.IsLexeme := by
  unfold scan at h
  split at h
  · rename_i hdigit
    cases h
    refine .inl ⟨List.cons_ne_nil _ _, fun d hd => ?_⟩
    rcases List.mem_cons.mp hd with rfl | hd
    · exact hdigit
    · exact List.all_eq_true.mp List.all_takeWhile d hd
  · split at h
    · rename_i hname
      split at h <;> cases h
      exact .inr ⟨c, rfl, hname⟩
    · exact isLexeme_of_scanSign h

/-! ### All tokens -/

theorem tokenize_of_trimLeft_eq_nil {t : Text} (ht : trimLeft t = []) : tokenize t = .ok [] := by
  rw [tokenize]
  split
  · rfl
  · simp_all

theorem tokenize_of_scan {t rest rest' : Text} {c : Char} {token : Token}
    (ht : trimLeft t = c :: rest) (hs : scan c rest = .ok (token, rest')) :
    tokenize t = (tokenize rest').map (token :: ·) := by
  rw [tokenize]
  split
  · simp_all
  · rename_i c' r hr
    obtain ⟨rfl, rfl⟩ := List.cons.inj (ht.symm.trans hr)
    split
    · simp_all
    · rename_i token' r' hs'
      obtain ⟨rfl, rfl⟩ := Prod.mk.inj (Except.ok.inj (hs.symm.trans hs'))
      rfl

theorem isLexeme_of_tokenize {t : Text} {tokens : List Token} (h : tokenize t = .ok tokens) :
    ∀ token ∈ tokens, token.IsLexeme := by
  fun_induction tokenize t generalizing tokens with
  | case1 t ht =>
    cases h
    exact List.forall_mem_nil _
  | case2 t c rest ht fault hs => cases h
  | case3 t c rest ht token rest' hs ih =>
    cases hrest : tokenize rest' with
    | error fault =>
      rw [hrest] at h
      cases h
    | ok tokens' =>
      rw [hrest] at h
      cases h
      exact List.forall_mem_cons.mpr ⟨isLexeme_of_scan hs, ih hrest⟩

/-- **Reading back**: a text in which every token stops where it ends has exactly its tokens. -/
theorem tokenize_of_lexes {tokens : List Token} {t : Text} (h : Lexes tokens t) :
    tokenize t = .ok tokens := by
  induction h with
  | nil hw => exact tokenize_of_trimLeft_eq_nil (trimLeft_of_allBlank hw)
  | @cons w rest token tokens hw hl hs _ ih =>
    obtain ⟨c, cs, htext, hblank, hscan⟩ := scan_text hl hs
    have htrim : trimLeft (w ++ (token.text ++ rest)) = c :: (cs ++ rest) := by
      rw [trimLeft_append hw, htext, List.cons_append, trimLeft_cons_of_not_isBlank hblank]
    rw [tokenize_of_scan htrim hscan, ih]
    rfl

/-! ### Tokens that never run together -/

/-- Whether an operand can start with a token. -/
def startsOperand : Token → Bool
  | .leftParen => true
  | .rightParen => false
  | .operator op => op = .binary (.arithmetic .subtract)
  | .operand _ => true

/-- Whether an operand can end with a token. -/
def endsOperand : Token → Bool
  | .rightParen => true
  | .operand _ => true
  | _ => false

/-- Whether a token can stand behind an operand. -/
def followsOperand : Token → Bool
  | .rightParen => true
  | .operator _ => true
  | _ => false

/-- Whether two tokens can be neighbours: behind an operand there is an operator or a closing
parenthesis, and anywhere else an operand starts. -/
def Joins (a b : Token) : Prop :=
  if a.endsOperand then b.followsOperand = true else b.startsOperand = true

/-- A text that starts with blanks and a token starts with a blank or as the token does. -/
theorem isBlank_or_head?_text {w rest : Text} {token : Token} {c : Char}
    (hw : allBlank w = true) (hne : token.text ≠ [])
    (hc : (w ++ (token.text ++ rest)).head? = some c) :
    isBlank c = true ∨ token.text.head? = some c := by
  cases w with
  | nil =>
    obtain ⟨d, ds, hd⟩ := List.exists_cons_of_ne_nil hne
    rw [hd] at hc ⊢
    exact .inr hc
  | cons d w =>
    obtain rfl : d = c := Option.some.inj hc
    exact .inl (List.all_eq_true.mp hw d List.mem_cons_self)

theorem text_ne_nil {token : Token} (h : token.IsLexeme) : token.text ≠ [] := by
  have hstops : token.Stops [] := by cases token <;> simp [Stops]
  obtain ⟨c, cs, htext, -, -⟩ := scan_text h hstops
  rw [htext]
  exact List.cons_ne_nil c cs

/-- What can stand behind an operand does not start with a character of a word. -/
theorem isWordChar_of_followsOperand {token : Token} {c : Char} (hl : token.IsLexeme)
    (h : token.followsOperand = true) (hc : token.text.head? = some c) : isWordChar c = false := by
  cases token with
  | leftParen => cases h
  | operand t => cases h
  | rightParen =>
    obtain rfl : ')' = c := Option.some.inj hc
    decide +kernel
  | operator op =>
    cases op with
    | negate => exact absurd rfl hl
    | binary op =>
      cases op with
      | arithmetic op => cases op <;> cases hc <;> decide +kernel
      | comparison op => cases op <;> cases hc <;> decide +kernel

/-- An operand does not start with `=`. -/
theorem ne_equal_of_startsOperand {token : Token} {c : Char} (hl : token.IsLexeme)
    (h : token.startsOperand = true) (hc : token.text.head? = some c) : c ≠ '=' := by
  cases token with
  | rightParen => cases h
  | leftParen =>
    obtain rfl : '(' = c := Option.some.inj hc
    decide
  | operator op =>
    obtain rfl : op = .binary (.arithmetic .subtract) := of_decide_eq_true h
    cases hc
    decide
  | operand t =>
    rintro rfl
    rcases hl with ⟨-, hdigits⟩ | ⟨d, rfl, hname⟩
    · exact absurd (hdigits '=' (List.mem_of_mem_head? hc)) (by decide)
    · obtain rfl : d = '=' := Option.some.inj hc
      exact absurd hname (by decide)

/-- A token stops before blanks and a neighbour it joins. -/
theorem stops_of_joins {a b : Token} {w rest : Text} (hj : Joins a b) (hb : b.IsLexeme)
    (hw : allBlank w = true) : a.Stops (w ++ (b.text ++ rest)) := by
  cases a with
  | leftParen => trivial
  | rightParen => trivial
  | operator op =>
    intro hc
    rcases isBlank_or_head?_text hw (text_ne_nil hb) hc with hblank | hhead
    · exact absurd hblank (by decide +kernel)
    · exact ne_equal_of_startsOperand hb hj hhead rfl
  | operand t =>
    intro c hc
    rcases isBlank_or_head?_text hw (text_ne_nil hb) hc with hblank | hhead
    · exact isWordChar_of_isBlank hblank
    · exact isWordChar_of_followsOperand hb hj hhead

theorem stops_of_isBlank {a : Token} {rest : Text} (h : ∀ c ∈ rest.head?, isBlank c = true) :
    a.Stops rest := by
  cases a with
  | leftParen => trivial
  | rightParen => trivial
  | operator op => exact fun hc => absurd (h '=' hc) (by decide +kernel)
  | operand t => exact fun c hc => isWordChar_of_isBlank (h c hc)

theorem stops_of_allBlank {a : Token} {w : Text} (hw : allBlank w = true) : a.Stops w :=
  stops_of_isBlank fun c hc => List.all_eq_true.mp hw c (List.mem_of_mem_head? hc)

theorem lexes_of_writes {tokens : List Token} {t : Text} (hw : Writes tokens t)
    (hl : ∀ token ∈ tokens, token.IsLexeme) (hj : tokens.IsChain Joins) : Lexes tokens t := by
  -- What a token has to stop before is the next token, so the tail is looked into once more.
  induction hw with
  | nil hw => exact .nil hw
  | @cons w rest token tokens hw hrest ih =>
    refine .cons hw (hl token List.mem_cons_self) ?_
      (ih (fun a ha => hl a (List.mem_cons_of_mem token ha)) hj.tail)
    cases hrest with
    | nil hw' => exact stops_of_allBlank hw'
    | @cons w' rest' next tokens' hw' _ =>
      have hnext : next.IsLexeme := hl next (List.mem_cons_of_mem token List.mem_cons_self)
      exact stops_of_joins hj.rel hnext hw'

end Token

/-! ### Sentences -/

namespace Sentence

open Token

variable {level : Level} {tokens : List Token} {e : Expr}

theorem isLexeme (h : Sentence level tokens e) : ∀ token ∈ tokens, token.IsLexeme := by
  induction h with
  | tighter _ ih => exact ih
  | binary _ _ ihl ihr =>
    intro token ht
    rcases List.mem_append.mp ht with ht | ht
    · exact ihl token ht
    · rcases List.mem_cons.mp ht with rfl | ht
      · exact nofun
      · exact ihr token ht
  | negate _ ih =>
    intro token ht
    rcases List.mem_cons.mp ht with rfl | ht
    · exact nofun
    · exact ih token ht
  | operand ht => exact fun token h => List.mem_singleton.mp h ▸ ht
  | parens _ ih =>
    intro token ht
    rcases List.mem_append.mp ht with ht | ht
    · rcases List.mem_cons.mp ht with rfl | ht
      · trivial
      · exact ih token ht
    · obtain rfl := List.mem_singleton.mp ht
      trivial

theorem head?_startsOperand (h : Sentence level tokens e) :
    ∃ a, tokens.head? = some a ∧ a.startsOperand = true := by
  induction h with
  | tighter _ ih => exact ih
  | binary _ _ ihl _ =>
    obtain ⟨a, ha, hstart⟩ := ihl
    exact ⟨a, by rw [List.head?_append, ha]; rfl, hstart⟩
  | negate _ _ => exact ⟨_, rfl, rfl⟩
  | operand _ => exact ⟨_, rfl, rfl⟩
  | parens _ _ => exact ⟨_, rfl, rfl⟩

theorem getLast?_endsOperand (h : Sentence level tokens e) :
    ∃ a, tokens.getLast? = some a ∧ a.endsOperand = true := by
  induction h with
  | tighter _ ih => exact ih
  | binary _ _ _ ihr =>
    obtain ⟨a, ha, hend⟩ := ihr
    exact ⟨a, by rw [List.getLast?_append, List.getLast?_cons, ha]; rfl, hend⟩
  | negate _ ih =>
    obtain ⟨a, ha, hend⟩ := ih
    exact ⟨a, by rw [List.getLast?_cons, ha]; rfl, hend⟩
  | operand _ => exact ⟨_, rfl, rfl⟩
  | parens _ _ => exact ⟨.rightParen, by rw [List.getLast?_append]; rfl, rfl⟩

/-- The tokens before an operand are joined to it. -/
private theorem joins_head {a : Token} (ha : a.endsOperand = false) (h : Sentence level tokens e) :
    ∀ b ∈ tokens.head?, Joins a b := by
  obtain ⟨b, hb, hstart⟩ := h.head?_startsOperand
  intro b' hb'
  obtain rfl := Option.some.inj (hb.symm.trans hb')
  rwa [Joins, ha, if_neg Bool.false_ne_true]

/-- An operand is joined to the tokens behind it. -/
private theorem joins_last {b : Token} (hb : b.followsOperand = true)
    (h : Sentence level tokens e) : ∀ a ∈ tokens.getLast?, Joins a b := by
  obtain ⟨a, ha, hend⟩ := h.getLast?_endsOperand
  intro a' ha'
  obtain rfl := Option.some.inj (ha.symm.trans ha')
  rwa [Joins, hend, if_pos rfl]

/-- In a sentence neighbouring tokens alternate as operands and operators do. -/
theorem isChain_joins (h : Sentence level tokens e) : tokens.IsChain Joins := by
  induction h with
  | tighter _ ih => exact ih
  | binary hl hr ihl ihr =>
    refine ihl.append (ihr.cons (joins_head rfl hr)) ?_
    intro a ha b hb
    obtain rfl := Option.some.inj hb
    exact joins_last rfl hl a ha
  | negate h ih => exact ih.cons (joins_head rfl h)
  | operand _ => exact .singleton _
  | parens h ih =>
    refine (ih.cons (joins_head rfl h)).append (.singleton _) ?_
    intro a ha b hb
    obtain rfl := Option.some.inj hb
    obtain ⟨z, hz, -⟩ := h.getLast?_endsOperand
    rw [List.getLast?_cons, hz] at ha
    exact joins_last rfl h a (hz.trans ha)

end Sentence

/-- **Sentences can be written without blanks**: however its tokens are spaced, a sentence is read
back into exactly them. -/
theorem tokenize_of_sentence {level : Level} {tokens : List Token} {e : Expr} {t : Text}
    (h : Sentence level tokens e) (hw : Token.Writes tokens t) : Token.tokenize t = .ok tokens :=
  Token.tokenize_of_lexes (Token.lexes_of_writes hw h.isLexeme h.isChain_joins)

end LineScript
