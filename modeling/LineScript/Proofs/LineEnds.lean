import LineScript.Proofs.Lines
import LineScript.Proofs.Opacity

/-!
# Line ends

A line end is a carriage return followed by a line feed, or either of them alone. A text is read
from the left, one line end or one character of a line at a time (`Text.ends_induction`), and that
is how cutting a text into lines, and writing its line ends as line feeds, are compared: nothing of
the text is lost but the spelling of its line ends (`Text.endLines_lines`).

In the other direction lines are joined to a text. An empty piece at the end of a text is not
counted as a line, so a text shows that its last line is empty by one more line end. Joining puts no
line end behind the last line, and a program that is given by its lines loses the last of them if it
is empty, but nothing else (`Text.lines_unlines`).

Beyond its lines, and the name under which its faults are noted, a run takes nothing from a program
(`interpret_of_lines`).
-/

namespace LineScript

open Text

namespace Text

/-! ### Texts and their line ends -/

/-- A text starts with a line end, behind which the rest follows. -/
inductive Ends : Text → Text → Prop where
  | both (rest : Text) : Ends ('\r' :: '\n' :: rest) rest
  | carriage {rest : Text} : rest.head? ≠ some '\n' → Ends ('\r' :: rest) rest
  | feed (rest : Text) : Ends ('\n' :: rest) rest

/-- A carriage return with no line feed behind it is a line end of its own. -/
theorem Ends.of_return {rest : Text} (h : ∀ rest', rest = '\n' :: rest' → False) :
    Ends ('\r' :: rest) rest := by
  refine .carriage fun hhead => ?_
  obtain ⟨rest', hrest⟩ := List.head?_eq_some_iff.mp hhead
  exact h rest' hrest

/-- Induction on a text by its line ends and the characters of its lines. -/
theorem ends_induction {P : Text → Prop} (nil : P [])
    (ends : ∀ {t rest}, Ends t rest → P rest → P t)
    (cons : ∀ {c} rest, isBreak c = false → P rest → P (c :: rest)) (t : Text) : P t := by
  induction t using pieces.induct with
  | case1 => exact nil
  | case2 rest ih => exact ends (.both rest) ih
  | case3 rest hfeed ih => exact ends (.of_return hfeed) ih
  | case4 rest ih => exact ends (.feed rest) ih
  | case5 c rest _ hreturn hfeed ih =>
    refine cons rest ?_ ih
    simpa [isBreak] using ⟨hreturn, hfeed⟩

section Ends

variable {t rest : Text}

theorem Ends.pieces_eq (h : Ends t rest) : pieces t = [] :: pieces rest := by
  obtain rest | hhead | rest := h
  · rw [pieces]
  · rw [pieces]
    rintro rest' rfl
    exact hhead rfl
  · rw [pieces]

theorem Ends.unifyBreaks_eq (h : Ends t rest) : unifyBreaks t = '\n' :: unifyBreaks rest := by
  obtain rest | hhead | rest := h
  · rw [unifyBreaks]
  · rw [unifyBreaks]
    rintro rest' rfl
    exact hhead rfl
  · rw [unifyBreaks] <;> simp

theorem Ends.all_getLast? (h : Ends t rest) :
    t.getLast?.all isBreak = rest.getLast?.all isBreak := by
  obtain rest | hhead | rest := h <;> cases hlast : rest.getLast? <;>
    simp [List.getLast?_cons, hlast, isBreak]

end Ends

theorem unifyBreaks_cons {c : Char} (hc : isBreak c = false) (rest : Text) :
    unifyBreaks (c :: rest) = c :: unifyBreaks rest := by
  have hreturn : c ≠ '\r' := by
    rintro rfl
    cases hc
  rw [unifyBreaks]
  · exact fun _ h _ => hreturn h
  · exact hreturn

theorem pieces_unifyBreaks (t : Text) : pieces (unifyBreaks t) = pieces t := by
  induction t using ends_induction with
  | nil => rfl
  | ends h ih => rw [h.unifyBreaks_eq, h.pieces_eq, (Ends.feed _).pieces_eq, ih]
  | cons rest hc ih => rw [unifyBreaks_cons hc, pieces_cons hc, pieces_cons hc, ih]

/-- How line ends are written has no influence on the lines. -/
theorem lines_unifyBreaks (t : Text) : lines (unifyBreaks t) = lines t := by
  rw [lines, pieces_unifyBreaks, lines]

/-! ### From a text to its lines -/

theorem pieces_ne_nil (t : Text) : pieces t ≠ [] := by
  induction t using ends_induction with
  | nil => exact List.cons_ne_nil _ _
  | ends h _ => simp [h.pieces_eq]
  | cons rest hc ih =>
    obtain ⟨piece, ps, hps⟩ := List.exists_cons_of_ne_nil ih
    simp [pieces_cons hc, hps, consHead]

theorem dropEmptyLast_cons {line : Text} {ls : List Text} (h : ls ≠ []) :
    dropEmptyLast (line :: ls) = line :: dropEmptyLast ls := by
  rw [dropEmptyLast]
  exact h

theorem dropEmptyLast_consHead {c : Char} {ls : List Text} (h : ls ≠ []) :
    dropEmptyLast (consHead c ls) = consHead c (dropEmptyLast ls) := by
  obtain ⟨line, rest, rfl⟩ := List.exists_cons_of_ne_nil h
  rcases eq_or_ne rest [] with rfl | hrest
  · rcases eq_or_ne line [] with rfl | hline
    · rfl
    · simp [dropEmptyLast, consHead, hline]
  · rw [consHead, dropEmptyLast_cons hrest, dropEmptyLast_cons hrest, consHead]

theorem dropEmptyLast_eq (ls : List Text) :
    dropEmptyLast ls = if ls.getLast? = some [] then ls.dropLast else ls := by
  induction ls with
  | nil => rfl
  | cons line ls ih =>
    rcases eq_or_ne ls [] with rfl | hls
    · simp [dropEmptyLast]
    · obtain ⟨next, rest, rfl⟩ := List.exists_cons_of_ne_nil hls
      rw [dropEmptyLast_cons hls, ih, List.getLast?_cons_cons, List.dropLast_cons_cons]
      split_ifs <;> rfl

theorem Ends.lines_eq {t rest : Text} (h : Ends t rest) : lines t = [] :: lines rest := by
  rw [lines, h.pieces_eq, dropEmptyLast_cons (pieces_ne_nil rest), lines]

theorem lines_cons {c : Char} (hc : isBreak c = false) (rest : Text) :
    lines (c :: rest) = consHead c (lines rest) := by
  rw [lines, pieces_cons hc, dropEmptyLast_consHead (pieces_ne_nil rest), lines]

theorem endLines_cons (line : Text) (ls : List Text) :
    endLines (line :: ls) = line ++ '\n' :: endLines ls := by
  simp [endLines]

theorem Ends.lines_ne_nil {t rest : Text} (h : Ends t rest) : lines t ≠ [] := by
  rw [h.lines_eq]
  exact List.cons_ne_nil _ _

/-- Only the empty text has no lines. -/
theorem lines_eq_nil_iff {t : Text} : lines t = [] ↔ t = [] := by
  constructor
  · intro h
    fun_cases pieces t with
    | case1 => rfl
    | case2 rest => exact absurd h (Ends.both rest).lines_ne_nil
    | case3 rest hfeed => exact absurd h (Ends.of_return hfeed).lines_ne_nil
    | case4 rest => exact absurd h (Ends.feed rest).lines_ne_nil
    | case5 c rest _ hreturn hfeed =>
      rw [lines_cons (by simpa [isBreak] using ⟨hreturn, hfeed⟩)] at h
      cases hrest : lines rest <;> simp [hrest, consHead] at h
  · rintro rfl
    rfl

/-- **A text is made of its lines.** With a line feed behind each of them, they are the text with
its line ends written as line feeds, and one more if it did not end in a line end. -/
theorem endLines_lines (t : Text) :
    endLines (lines t) = unifyBreaks t ++ if t.getLast?.all isBreak then [] else ['\n'] := by
  induction t using ends_induction with
  | nil => rfl
  | ends h ih => simp [h.lines_eq, endLines_cons, ih, h.unifyBreaks_eq, h.all_getLast?]
  | @cons c rest hc ih =>
    rw [lines_cons hc, unifyBreaks_cons hc]
    rcases eq_or_ne rest [] with rfl | hrest
    · rw [lines_eq_nil_iff.mpr rfl]
      simp [consHead, endLines, unifyBreaks, hc]
    · -- The character belongs to the first line of the rest, and it is not the last character.
      obtain ⟨line, ls, hls⟩ := List.exists_cons_of_ne_nil (mt lines_eq_nil_iff.mp hrest)
      rw [hls, endLines_cons] at ih
      rw [hls, consHead, endLines_cons, List.cons_append, ih, List.getLast?_cons,
        List.getLast?_eq_some_getLast hrest]
      simp

/-! ### From lines to a text -/

theorem unlines_cons {line : Text} {ls : List Text} (h : ls ≠ []) :
    unlines (line :: ls) = line ++ '\n' :: unlines ls := by
  obtain ⟨next, rest, rfl⟩ := List.exists_cons_of_ne_nil h
  simp [unlines]

/-- Lines closed by line feeds are lines joined by them, with one more at the end. -/
theorem unlines_append_newline {ls : List Text} (h : ls ≠ []) :
    unlines ls ++ ['\n'] = endLines ls := by
  induction ls with
  | nil => exact absurd rfl h
  | cons line ls ih =>
    rcases eq_or_ne ls [] with rfl | hls
    · simp [unlines, endLines]
    · rw [unlines_cons hls, endLines_cons, ← ih hls, List.append_assoc, List.cons_append]

/-- Joined by line feeds, and closed by one if the text was, the lines are the text with its line
ends written as line feeds. -/
theorem unlines_lines (t : Text) :
    unlines (lines t) ++ (if t.getLast?.any isBreak then ['\n'] else []) = unifyBreaks t := by
  rcases eq_or_ne t [] with rfl | ht
  · rfl
  · have hjoin := unlines_append_newline (mt lines_eq_nil_iff.mp ht)
    rw [endLines_lines, List.getLast?_eq_some_getLast ht, Option.all_some] at hjoin
    rw [List.getLast?_eq_some_getLast ht, Option.any_some]
    split_ifs at hjoin ⊢
    · rwa [List.append_nil] at hjoin
    · rw [List.append_nil]
      exact List.append_cancel_right hjoin

theorem pieces_of_isBreak {line : Text} (h : ∀ c ∈ line, isBreak c = false) :
    pieces line = [line] := by
  induction line with
  | nil => rfl
  | cons c line ih =>
    obtain ⟨hc, hline⟩ := List.forall_mem_cons.mp h
    rw [pieces_cons hc, ih hline, consHead]

/-- Lines that are joined by line feeds are read back, except for an empty one at the end. -/
theorem lines_unlines {ls : List Text} (h : ∀ line ∈ ls, ∀ c ∈ line, isBreak c = false) :
    lines (unlines ls) = dropEmptyLast ls := by
  rcases eq_or_ne ls [] with rfl | hls
  · rfl
  · suffices hpieces : pieces (unlines ls) = ls by rw [lines, hpieces]
    induction ls with
    | nil => exact absurd rfl hls
    | cons line ls ih =>
      obtain ⟨hline, hrest⟩ := List.forall_mem_cons.mp h
      rcases eq_or_ne ls [] with rfl | hls
      · simpa [unlines] using pieces_of_isBreak hline
      · rw [unlines_cons hls, pieces_append hline, ih hrest hls]

/-- A line end behind a line is dropped, however it is written. -/
theorem chomp_append {line close : Text} (hline : ∀ c ∈ line, isBreak c = false)
    (hclose : ∀ c ∈ close, isBreak c = true) : chomp (line ++ close) = line := by
  have hdrop : close.reverse.dropWhile isBreak = [] := by
    simpa [List.dropWhile_eq_nil_iff] using hclose
  have hkeep : line.reverse.dropWhile isBreak = line.reverse := by
    cases hrev : line.reverse with
    | nil => rfl
    | cons c rest =>
      have hc : c ∈ line := List.mem_reverse.mp (hrev ▸ List.mem_cons_self)
      simp [hline c hc]
  rw [chomp, List.reverse_append, List.dropWhile_append, hdrop, hkeep]
  simp

end Text

/-! ### Programs with the same lines -/

section SameLines

variable {p q : Program}

theorem Machine.run_of_lines (h : p.lines = q.lines) (settings : Settings) (n : Nat) (s : State) :
    Machine.run ⟨p, settings⟩ n s = Machine.run ⟨q, settings⟩ n s := by
  have hsettings : (Machine.mk p settings).settings = (Machine.mk q settings).settings := rfl
  refine run_of_shape hsettings ?_ n s fun k _ => ?_
  · rw [Program.shape, Program.shape, h]
  · rw [Program.line?, Program.line?, h]

theorem Outcome.verdict_of_lines (h : p.lines = q.lines) (o : Outcome) :
    o.verdict p = o.verdict q := by
  unfold verdict Program.line?
  rw [h]

/-- Programs with the same lines run alike; only the name of the program is noted with a fault. -/
theorem interpret_of_lines (h : p.lines = q.lines) (settings : Settings) (limit : Nat)
    (filename filename' : String) (store : Store) (console : Console) :
    let r := interpret settings limit filename (.program p) store console
    let r' := interpret settings limit filename' (.program q) store console
    r.verdict = r'.verdict ∧ r.store = r'.store ∧ r.console = r'.console ∧
      (p.filename = q.filename → r = r') := by
  intro r r'
  have hr : r = _ := interpret_eq_result settings limit filename p store console
  have hr' : r' = _ := interpret_eq_result settings limit filename' q store console
  rw [Machine.run_of_lines h] at hr
  generalize Machine.run ⟨q, settings⟩ limit { store, console := console.enter } = o at *
  rw [hr, hr']
  have hverdict := o.verdict_of_lines h
  refine ⟨hverdict, rfl, ?_, fun hname => ?_⟩
  · rw [Outcome.result, Outcome.result, hverdict]
  · rw [Outcome.result, Outcome.result, hverdict]
    unfold Outcome.stopNote
    rw [hname]

end SameLines

/-! ### Programs given by their lines -/

/-- **A program given by its lines** has these lines, but for the last one if it is empty, and
whether and how each of them is closed by a line end makes no difference. It runs like a text with
the lines that it has. -/
theorem lines_ofLines {given : List (Text × Text)}
    (hline : ∀ x ∈ given, ∀ c ∈ x.1, isBreak c = false)
    (hclose : ∀ x ∈ given, ∀ c ∈ x.2, isBreak c = true) (filename : String) :
    let ls := given.map Prod.fst
    let kept := if ls.getLast? = some [] then ls.dropLast else ls
    (Program.ofLines filename (given.map fun x => x.1 ++ x.2)).lines = kept.toArray ∧
      ∀ source, Text.lines source = kept → ∀ settings limit store console,
        interpret settings limit filename (.lines (given.map fun x => x.1 ++ x.2)) store console =
          interpret settings limit filename (.text source) store console := by
  intro ls kept
  have hchomp : (given.map fun x => x.1 ++ x.2).map chomp = ls := by
    rw [List.map_map]
    exact List.map_congr_left fun x hx => chomp_append (hline x hx) (hclose x hx)
  have hlines : (Program.ofLines filename (given.map fun x => x.1 ++ x.2)).lines =
      kept.toArray := by
    rw [Program.ofLines, hchomp]
    show (Text.lines (unlines ls)).toArray = _
    rw [lines_unlines (by simpa [ls] using hline), dropEmptyLast_eq]
  refine ⟨hlines, fun source hsource settings limit store console => ?_⟩
  have hsame : (Program.ofLines filename (given.map fun x => x.1 ++ x.2)).lines =
      (Program.ofText filename source).lines := by
    rw [hlines, ← hsource, Program.ofText]
  obtain ⟨-, -, -, hresult⟩ :=
    interpret_of_lines hsame settings limit filename filename store console
  exact hresult rfl

/-- Three lines, the one in the middle empty and the first two closed by line ends. -/
theorem lines_ofLines_closed :
    let ls : List Text := [['a', '=', '1', '\r'], ['\r', '\n'], ['p', 'r', 'i', 'n', 't', ' ', 'b']]
    let source : Text := ['a', '=', '1', '\n', '\r', 'p', 'r', 'i', 'n', 't', ' ', 'b', '\r', '\n']
    (Program.ofLines "" ls).lines = #[['a', '=', '1'], [], ['p', 'r', 'i', 'n', 't', ' ', 'b']] ∧
      interpret .standard 9 "" (.lines ls) .empty {} =
        interpret .standard 9 "" (.text source) .empty {} := by
  intro ls source
  have hline : ∀ x ∈ [(['a', '=', '1'], ['\r']), ([], ['\r', '\n']),
      (['p', 'r', 'i', 'n', 't', ' ', 'b'], [])], ∀ c ∈ x.1, isBreak c = false := by simp [isBreak]
  obtain ⟨hlines, hrun⟩ := lines_ofLines hline (by simp [isBreak]) ""
  exact ⟨hlines, hrun source (by decide) .standard 9 .empty {}⟩

/-- An empty line at the end is a line of a text, but not of a program that is given by its lines:
a jump to it is let through in the one and refused in the other. -/
theorem ofLines_drops_empty_last :
    let ls : List Text := [['g', 'o', 't', 'o', ' ', '2'], []]
    let source : Text := ['g', 'o', 't', 'o', ' ', '2', '\n', '\n']
    (∀ line ∈ ls, ∀ c ∈ line, isBreak c = false) ∧ Text.lines source = ls ∧
      (Program.ofLines "" ls).lines = #[['g', 'o', 't', 'o', ' ', '2']] ∧
      (interpret .standard 9 "" (.text source) .empty {}).verdict = .ok ∧
      (interpret .standard 9 "" (.lines ls) .empty {}).console.output =
        "Line 1: goto 2\nSyntax error: InvalidSyntaxError: " ++
          "goto target line 2 is outside the program (1-1)\n" := by
  intro ls source
  refine ⟨by simp [ls, isBreak], ?_⟩
  decide +kernel

end LineScript
