import LineScript.Proofs.Wording

/-!
# Programs with given lines

A program is read from a text. Conversely, lines that hold no line ends are those of the text in
which each of them is closed by a line feed, so that they make a program of their own
(`Program.ofEnded`). In this way programs are made from the lines of other programs.
-/

namespace LineScript

namespace Text

/-- Lines joined to a text in which each of them is closed by a line feed. -/
def endLines (ls : List Text) : Text := ls.flatMap (· ++ ['\n'])

theorem pieces_cons {c : Char} (hc : isBreak c = false) (rest : Text) :
    pieces (c :: rest) = consHead c (pieces rest) := by
  have hreturn : c ≠ '\r' := by
    rintro rfl
    cases hc
  have hfeed : c ≠ '\n' := by
    rintro rfl
    cases hc
  rw [pieces]
  · exact fun _ h _ => hreturn h
  · exact hreturn
  · exact hfeed

/-- The first piece of a text ends at the first line feed. -/
theorem pieces_append {line : Text} (h : ∀ c ∈ line, isBreak c = false) (rest : Text) :
    pieces (line ++ '\n' :: rest) = line :: pieces rest := by
  induction line with
  | nil => rfl
  | cons c line ih =>
    obtain ⟨hc, hline⟩ := List.forall_mem_cons.mp h
    rw [List.cons_append, pieces_cons hc, ih hline]
    rfl

theorem dropEmptyLast_concat (ls : List Text) : dropEmptyLast (ls ++ [[]]) = ls := by
  induction ls with
  | nil => rfl
  | cons line ls ih =>
    have hne : ls ++ [[]] ≠ [] := by simp
    obtain ⟨next, rest, hrest⟩ := List.exists_cons_of_ne_nil hne
    rw [List.cons_append, hrest, dropEmptyLast, ← hrest, ih]
    exact nofun

/-- Lines that are closed by line feeds are read back. -/
theorem lines_endLines {ls : List Text} (h : ∀ line ∈ ls, ∀ c ∈ line, isBreak c = false) :
    lines (endLines ls) = ls := by
  have hpieces : pieces (endLines ls) = ls ++ [[]] := by
    induction ls with
    | nil => rfl
    | cons line ls ih =>
      obtain ⟨hline, hls⟩ := List.forall_mem_cons.mp h
      have htext : endLines (line :: ls) = line ++ '\n' :: endLines ls := by
        rw [endLines, List.flatMap_cons, List.append_assoc]
        rfl
      rw [htext, pieces_append hline, ih hls]
      rfl
  rw [lines, hpieces, dropEmptyLast_concat]

end Text

namespace Program

open Text

/-- The program with given lines, each of which is closed by a line feed. -/
def ofEnded (filename : String) (ls : List Text) : Program := .ofText filename (endLines ls)

theorem lines_ofEnded {ls : List Text} (h : ∀ line ∈ ls, ∀ c ∈ line, isBreak c = false)
    (filename : String) : (ofEnded filename ls).lines = ls.toArray :=
  congrArg List.toArray (lines_endLines h)

/-- The lines of a program hold no line ends. -/
theorem isBreak_of_mem_line (p : Program) :
    ∀ line ∈ p.lines.toList, ∀ c ∈ line, isBreak c = false := by
  intro line hline
  rw [p.lines_eq] at hline
  exact isBreak_of_mem_lines hline

end Program

end LineScript
