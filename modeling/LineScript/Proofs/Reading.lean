import LineScript.Console
import LineScript.Proofs.Operand
import LineScript.Text.Lines

/-!
# Reading an integer at the console

The input of a console is a text, cut into lines at line feeds only. Reading an integer takes lines
from it until one of them, without the blanks around it, denotes an integer: `Numeral.Denotes` says
which texts do, and which integer it is, without regard to how they are tested.

`Console.awaits_awaitInteger` describes the loop: the lines in front of the first integer are refused
one by one, each with a prompt of its own, and what follows that integer is not touched.
`Console.readInteger_takes` says the same of the text of the input.
-/

namespace LineScript

open Text

/-! ### Texts that denote an integer -/

namespace Numeral

/-- Digits that make a numeral: ASCII digits, at least one and no more than the digit limit. -/
structure IsDigits (t : Text) : Prop where
  ne_nil : t ≠ []
  length_le : t.length ≤ digitLimit
  plain : ∀ c ∈ t, isPlainDigit c = true

/-- A text denotes an integer: it is made of digits, with or without a sign in front of them. -/
inductive Denotes : Text → Int → Prop where
  | unsigned {ds : Text} : IsDigits ds → Denotes ds (plainValue ds)
  | plus {ds : Text} : IsDigits ds → Denotes ('+' :: ds) (plainValue ds)
  | minus {ds : Text} : IsDigits ds → Denotes ('-' :: ds) (-(plainValue ds : Int))

/-- No sign is a digit. -/
theorem splitSign_of_plain {t : Text} (h : ∀ c ∈ t, isPlainDigit c = true) :
    splitSign t = (false, t) := by
  unfold splitSign
  split
  · cases h '-' List.mem_cons_self
  · cases h '+' List.mem_cons_self
  · rfl

/-- The sign and the digits of a text that denotes an integer. -/
theorem denotes_iff {t : Text} {v : Int} :
    Denotes t v ↔ IsDigits (splitSign t).2 ∧
      v = if (splitSign t).1 then -(plainValue (splitSign t).2 : Int)
        else plainValue (splitSign t).2 := by
  constructor
  · intro h
    cases h with
    | unsigned hds =>
      rw [splitSign_of_plain hds.plain]
      exact ⟨hds, rfl⟩
    | plus hds => exact ⟨hds, rfl⟩
    | minus hds => exact ⟨hds, rfl⟩
  · rintro ⟨hds, rfl⟩
    unfold splitSign at hds ⊢
    split at hds
    · exact .minus hds
    · exact .plus hds
    · exact .unsigned hds

theorem literal?_of_plain {t : Text} (h : ∀ c ∈ t, isPlainDigit c = true) :
    literal? t = if t.length ≤ digitLimit then some (plainValue t) else none := by
  rw [literal?, digitsValue?_of_plain h]

/-- A text is taken for an integer exactly if it denotes one. -/
theorem entry_eq_integer_iff {t : Text} {v : Int} : entry t = .integer v ↔ Denotes t v := by
  rw [denotes_iff, entry]
  generalize splitSign t = signed
  obtain ⟨negative, ds⟩ := signed
  dsimp only
  split
  · rename_i hother
    refine iff_of_false nofun fun ⟨hds, _⟩ => ?_
    have hplain : ds.all isPlainDigit = true := List.all_eq_true.mpr hds.plain
    simp [hplain, hds.ne_nil] at hother
  · rename_i hdigits
    have hplain : ∀ c ∈ ds, isPlainDigit c = true := by simp_all
    have hne : ds ≠ [] := by simp_all
    rw [literal?_of_plain hplain]
    by_cases hlength : ds.length ≤ digitLimit
    · rw [if_pos hlength]
      have hds : IsDigits ds := ⟨hne, hlength, hplain⟩
      simp only [hds, true_and, Entry.integer.injEq, eq_comm]
    · rw [if_neg hlength]
      exact iff_of_false nofun fun ⟨hds, _⟩ => hlength hds.length_le

end Numeral

/-! ### Lines of the input -/

namespace Text

theorem streamLines_cons {c : Char} (hc : c ≠ '\n') (rest : Text) :
    streamLines (c :: rest) = consHead c (streamLines rest) := by
  rw [streamLines]
  exact fun h => hc h

theorem streamLines_eq_nil_iff {t : Text} : streamLines t = [] ↔ t = [] := by
  fun_cases streamLines t with
  | case1 => simp
  | case2 rest => simp
  | case3 c rest _ =>
    cases streamLines rest <;> simp [consHead]

theorem streamLines_of_line {line : Text} (h : '\n' ∉ line) (rest : Text) :
    streamLines (line ++ '\n' :: rest) = line :: streamLines rest := by
  induction line with
  | nil => rfl
  | cons c line ih =>
    rw [List.mem_cons, not_or] at h
    rw [List.cons_append, streamLines_cons (Ne.symm h.1), ih h.2]
    rfl

theorem streamLines_of_last {line : Text} (h : '\n' ∉ line) (hne : line ≠ []) :
    streamLines line = [line] := by
  induction line with
  | nil => exact absurd rfl hne
  | cons c line ih =>
    rw [List.mem_cons, not_or] at h
    rw [streamLines_cons (Ne.symm h.1)]
    cases line with
    | nil => rfl
    | cons d line =>
      rw [ih h.2 (List.cons_ne_nil d line)]
      rfl

/-- Lines can be counted in two parts of a text if the first part ends with a line. -/
theorem streamLines_append {t : Text} (ht : ∀ c ∈ t.getLast?, c = '\n') (rest : Text) :
    streamLines (t ++ rest) = streamLines t ++ streamLines rest := by
  induction t with
  | nil => rfl
  | cons c t ih =>
    have hlast : ∀ d ∈ t.getLast?, d = '\n' := by
      cases t with
      | nil => exact fun _ hd => nomatch hd
      | cons d t => simpa using ht
    by_cases hc : c = '\n'
    · subst hc
      rw [List.cons_append, streamLines, streamLines, ih hlast, List.cons_append]
    · -- The line that starts with `c` ends within `t`, since `t` ends with a line.
      have hne : t ≠ [] := by
        rintro rfl
        exact hc (ht c rfl)
      rw [List.cons_append, streamLines_cons hc, streamLines_cons hc, ih hlast]
      cases hlines : streamLines t with
      | nil => exact absurd (streamLines_eq_nil_iff.mp hlines) hne
      | cons line lines => rfl

/-- The first line of a text is cut off at a line feed, or is all of the text. -/
theorem exists_of_streamLines_eq_cons {t line : Text} {lines : List Text}
    (h : streamLines t = line :: lines) :
    ∃ first rest, t = first ++ rest ∧ streamLines first = [line] ∧ streamLines rest = lines ∧
      (rest = [] ∨ first.getLast? = some '\n') := by
  induction t generalizing line with
  | nil => cases h
  | cons c t ih =>
    by_cases hc : c = '\n'
    · subst hc
      rw [streamLines] at h
      cases h
      exact ⟨['\n'], t, rfl, rfl, rfl, .inr rfl⟩
    · rw [streamLines_cons hc] at h
      cases hlines : streamLines t with
      | nil =>
        obtain rfl := streamLines_eq_nil_iff.mp hlines
        rw [hlines] at h
        cases h
        exact ⟨[c], [], rfl, streamLines_cons hc [], rfl, .inl rfl⟩
      | cons line' lines' =>
        rw [hlines] at h
        cases h
        obtain ⟨first, rest, rfl, hfirst, hrest, hend⟩ := ih hlines
        refine ⟨c :: first, rest, rfl, by rw [streamLines_cons hc, hfirst]; rfl, hrest,
          hend.imp_right fun hlast => ?_⟩
        rw [List.getLast?_cons, hlast]
        rfl

/-- A text can be cut in two behind any of its lines. -/
theorem exists_of_streamLines_eq_append {t : Text} {xs ys : List Text}
    (h : streamLines t = xs ++ ys) :
    ∃ taken rest, t = taken ++ rest ∧ streamLines taken = xs ∧ streamLines rest = ys ∧
      (rest = [] ∨ ∀ c ∈ taken.getLast?, c = '\n') := by
  induction xs generalizing t with
  | nil => exact ⟨[], t, rfl, rfl, h, .inr nofun⟩
  | cons x xs ih =>
    obtain ⟨first, rest, rfl, hfirst, hrest, hend⟩ := exists_of_streamLines_eq_cons h
    obtain ⟨taken, rest, rfl, htaken, hrest, hend'⟩ := ih hrest
    rcases hend with hnil | hlast
    · -- Nothing follows the first line.
      obtain ⟨rfl, rfl⟩ := List.append_eq_nil_iff.mp hnil
      cases htaken
      cases hrest
      exact ⟨first, [], by simp, hfirst, rfl, .inl rfl⟩
    · have hends : ∀ c ∈ first.getLast?, c = '\n' := by
        rw [hlast]
        exact fun c hc => (Option.some.inj hc).symm
      refine ⟨first ++ taken, rest, (List.append_assoc _ _ _).symm, ?_, hrest,
        hend'.imp_right fun hlast' c hc => ?_⟩
      · rw [streamLines_append hends, hfirst, htaken]
        rfl
      · rw [List.getLast?_append] at hc
        cases htail : taken.getLast? with
        | none => exact hends c (by simpa [htail] using hc)
        | some d => exact hlast' c (by simpa [htail] using hc)

end Text

/-! ### The loop -/

namespace Console

/-- None of these lines is an integer. -/
def Refused (lines : List Text) : Prop := ∀ line ∈ lines, ∀ v, ¬Numeral.Denotes (trim line) v

/-- The console after prompting some more times. -/
def askAgain (c : Console) (times : Nat) : Console where
  input := c.input
  written := c.written ++ Array.replicate times promptAgain
  closed := c.closed
  flushes := c.flushes + times

theorem askAgain_zero (c : Console) : c.askAgain 0 = c := by
  simp [askAgain]

theorem askAgain_ask (c : Console) (times : Nat) :
    (c.ask promptAgain).askAgain times = c.askAgain (times + 1) := by
  have hwritten : c.written.push promptAgain ++ Array.replicate times promptAgain =
      c.written ++ Array.replicate (times + 1) promptAgain := by
    apply Array.toList_inj.mp
    simp [List.replicate_succ]
  simp only [askAgain, ask, write, flush, hwritten, Nat.add_assoc, Nat.add_comm 1]

/-- What comes of waiting for an integer among some lines: the console, and the integer or the
reason for which there is none. -/
inductive Awaits (name : Text) (lines : List Text) (c c' : Console) :
    Except Failure Int → Prop where
  /-- The lines in front of the first integer are refused, and those behind it are left. -/
  | found {refused rest : List Text} {line : Text} {value : Int} :
      lines = refused ++ line :: rest → Refused refused → Numeral.Denotes (trim line) value →
      c' = { c.askAgain refused.length with input := rest } → Awaits name lines c c' (.ok value)
  /-- All lines are refused. -/
  | ended : Refused lines → c' = { c.askAgain lines.length with input := [] } →
      Awaits name lines c c' (.error (.script (.inputEnded name)))

/-- A line that is refused costs one more prompt. -/
theorem Awaits.cons {name line : Text} {lines : List Text} {c c' : Console}
    {result : Except Failure Int} (hline : ∀ v, Numeral.entry (trim line) ≠ .integer v)
    (h : Awaits name lines (c.ask promptAgain) c' result) :
    Awaits name (line :: lines) c c' result := by
  have hrefused {refused : List Text} (h : Refused refused) : Refused (line :: refused) :=
    List.forall_mem_cons.mpr ⟨fun v hv => hline v (Numeral.entry_eq_integer_iff.mpr hv), h⟩
  cases h with
  | found hlines hrefuse hvalue hc =>
    rw [askAgain_ask] at hc
    exact .found (congrArg (line :: ·) hlines) (hrefused hrefuse) hvalue hc
  | ended hrefuse hc =>
    rw [askAgain_ask] at hc
    exact .ended (hrefused hrefuse) hc

/-- **The loop that awaits an integer** prompts once for each line in front of the first integer. -/
theorem awaits_awaitInteger (name : Text) (lines : List Text) (c : Console) :
    Awaits name lines c (awaitInteger name lines c).console (awaitInteger name lines c).result := by
  have hnone : Refused [] := nofun
  have hzero (c : Console) (input : List Text) :
      { c with input } = { c.askAgain 0 with input } := by
    rw [askAgain_zero]
  fun_induction awaitInteger name lines c with
  | case1 c => exact .ended hnone (hzero c [])
  | case2 line rest c value h =>
    exact .found rfl hnone (Numeral.entry_eq_integer_iff.mp h) (hzero c rest)
  | case3 line rest c length h reading ih => exact ih.cons (by simp [h])
  | case4 line rest c h ih => exact ih.cons (by simp [h])

theorem readInteger_of_open {c : Console} (hopen : c.closed = false) (name : Text) :
    c.readInteger name = awaitInteger name c.input (c.ask (prompt name)) := by
  rw [readInteger, hopen, if_neg Bool.false_ne_true]

/-- Whatever comes of it, reading an integer writes the prompt and some further ones, and leaves the
end of the input. -/
theorem exists_console_readInteger {c : Console} (hopen : c.closed = false) (name : Text) :
    ∃ again input, input <:+ c.input ∧
      (c.readInteger name).console = { (c.ask (prompt name)).askAgain again with input } := by
  have hawaits := awaits_awaitInteger name c.input (c.ask (prompt name))
  rw [readInteger_of_open hopen]
  generalize awaitInteger name c.input (c.ask (prompt name)) = reading at hawaits
  obtain ⟨c', rejected, result⟩ := reading
  dsimp only at hawaits ⊢
  cases hawaits with
  | @found refused rest line value hlines _ _ hc =>
    exact ⟨_, rest, ⟨refused ++ [line], by simp [hlines]⟩, hc⟩
  | ended _ hc => exact ⟨_, [], List.nil_suffix, hc⟩

/-- **Reading an integer takes the input up to the first line that is one.** The input is a text,
cut into lines at line feeds. Either it starts with a part whose last line is an integer and whose other
lines are not, and exactly this part is taken; or none of its lines is an integer, all of it is
taken, and the reading fails. In both cases what is written is the prompt and then one further
prompt for each line that was refused, each of them followed by a flush. -/
theorem readInteger_takes {c : Console} {stdin : Text} (hopen : c.closed = false)
    (hinput : c.input = streamLines stdin) (name : Text) :
    (∃ taken rest refused line value,
      stdin = taken ++ rest ∧ (rest = [] ∨ taken.getLast? = some '\n') ∧
      streamLines taken = refused ++ [line] ∧
      (∀ l ∈ refused, ∀ v, ¬Numeral.Denotes (trim l) v) ∧ Numeral.Denotes (trim line) value ∧
      (c.readInteger name).result = .ok value ∧
      (c.readInteger name).console =
        { input := streamLines rest
          written := c.written ++ #[prompt name] ++ Array.replicate refused.length promptAgain
          closed := false
          flushes := c.flushes + (refused.length + 1) }) ∨
    (∀ l ∈ streamLines stdin, ∀ v, ¬Numeral.Denotes (trim l) v) ∧
      (c.readInteger name).result = .error (.script (.inputEnded name)) ∧
      (c.readInteger name).console =
        { input := []
          written := c.written ++ #[prompt name] ++
            Array.replicate (streamLines stdin).length promptAgain
          closed := false
          flushes := c.flushes + ((streamLines stdin).length + 1) } := by
  have hconsole (input : List Text) (again : Nat) :
      { (c.ask (prompt name)).askAgain again with input } =
        { input
          written := c.written ++ #[prompt name] ++ Array.replicate again promptAgain
          closed := false
          flushes := c.flushes + (again + 1) } := by
    simp [askAgain, ask, write, flush, hopen, Nat.add_assoc, Nat.add_comm 1]
  have hawaits := awaits_awaitInteger name c.input (c.ask (prompt name))
  rw [readInteger_of_open hopen]
  generalize awaitInteger name c.input (c.ask (prompt name)) = reading at hawaits
  obtain ⟨c', rejected, result⟩ := reading
  dsimp only at hawaits ⊢
  rw [hinput] at hawaits
  cases hawaits with
  | @found refused rest line value hlines hrefused hvalue hc =>
    rw [List.append_cons] at hlines
    obtain ⟨taken, rest', rfl, htaken, rfl, hend⟩ := exists_of_streamLines_eq_append hlines
    have hne : taken ≠ [] := by
      rintro rfl
      simp [streamLines] at htaken
    have hlast : rest' = [] ∨ taken.getLast? = some '\n' := by
      rw [List.getLast?_eq_some_getLast hne] at hend ⊢
      exact hend.imp_right fun hlast => congrArg some (hlast _ rfl)
    exact .inl ⟨taken, rest', refused, line, value, rfl, hlast, htaken, hrefused, hvalue, rfl,
      hc.trans (hconsole _ _)⟩
  | ended hrefused hc => exact .inr ⟨hrefused, rfl, hc.trans (hconsole _ _)⟩

/-- The first integer stands behind an empty line and a line that is no integer, and in front of a
line that no line feed ends. -/
theorem readInteger_takes_third :
    let stdin : Text := ['\n', '4', '.', '5', '\n', ' ', '-', '0', '7', '\n', '8']
    let c : Console := { input := streamLines stdin, written := #["0"], flushes := 2 }
    c.closed = false ∧ c.input = streamLines stdin ∧
      (c.readInteger ['n']).console =
        { input := [['8']]
          written := #["0", prompt ['n'], promptAgain, promptAgain]
          flushes := 5 } ∧
      ∃ taken rest refused line,
        stdin = taken ++ rest ∧ (rest = [] ∨ taken.getLast? = some '\n') ∧
        streamLines taken = refused ++ [line] ∧
        (∀ l ∈ refused, ∀ v, ¬Numeral.Denotes (trim l) v) ∧ Numeral.Denotes (trim line) (-7) := by
  intro stdin c
  have hresult : (c.readInteger ['n']).result = .ok (-7) := by decide +kernel
  refine ⟨rfl, rfl, by decide +kernel, ?_⟩
  have hinput : c.input = streamLines stdin := rfl
  rcases readInteger_takes rfl hinput ['n'] with
    ⟨taken, rest, refused, line, value, hsplit, hend, htaken, hrefused, hline, hvalue, -⟩ |
      ⟨-, hfailed, -⟩
  · obtain rfl : value = -7 := Except.ok.inj (hvalue.symm.trans hresult)
    exact ⟨taken, rest, refused, line, hsplit, hend, htaken, hrefused, hline⟩
  · cases hfailed.symm.trans hresult

end Console

end LineScript
