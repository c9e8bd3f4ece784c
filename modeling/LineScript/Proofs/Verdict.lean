import LineScript.Proofs.Dispatch
import LineScript.Proofs.Report

/-!
# The result of a run

A run of a program executes it on an open console and reports on the outcome. `Outcome.result` says
directly what the run leaves when the last step has come to an outcome: the verdict, in which a
fault is located at the line where the machine stands, and the report behind all that was written.
`interpret_eq_result` says that this is what running the program comes to, so that runs of two
programs are compared by their outcomes.
-/

namespace LineScript

open Text

deriving instance DecidableEq for Verdict

/-! ### Written lines -/

theorem joinLines_append (xs ys : Array String) :
    joinLines (xs ++ ys) = joinLines xs ++ joinLines ys := by
  have hfold (lines : List String) (text : String) :
      lines.foldl (fun text line => text ++ line ++ "\n") text =
        text ++ lines.foldl (fun text line => text ++ line ++ "\n") "" := by
    induction lines generalizing text with
    | nil => simp
    | cons line lines ih =>
      rw [List.foldl_cons, List.foldl_cons, ih, ih ("" ++ line ++ "\n")]
      simp only [String.append_assoc, String.empty_append]
  rw [joinLines, Array.foldl_append, ← Array.foldl_toList, hfold, Array.foldl_toList]
  rfl

namespace Verdict

/-- The lines in which a verdict is reported. -/
def reportLines : Verdict → Array String
  | error report => #[report.placeLine, report.causeLine]
  | _ => #[]

/-- The report of a verdict as it is written. -/
def reportText (v : Verdict) : String := joinLines v.reportLines

end Verdict

/-! ### Failing steps -/

namespace Machine

variable {m : Machine} {s s' : State} {cause : Failure}

/-- A step that fails does so at a line of the program, where the cursor stays. -/
theorem line_of_failed (h : m.step s = .failed s' cause) :
    s'.line = s.line ∧ ∃ line, m.program.line? s.line = some line := by
  cases hat : m.statementAt? s with
  | some statement =>
    obtain ⟨line, hline, -⟩ := statementAt?_eq_some_iff.mp hat
    have hcarried := carried hat
    rw [h] at hcarried
    cases hcarried with
    | failed _ hkept _ => exact ⟨hkept, line, hline⟩
    | refused _ _ hkept _ => exact ⟨hkept, line, hline⟩
  | none =>
    have hpassed := passed hat
    rw [h] at hpassed
    cases hpassed with
    | faulty hline _ _ => exact ⟨rfl, _, hline⟩

/-- So does a run. -/
theorem line_of_run_failed {n : Nat} (h : m.run n s = .failed s' cause) :
    ∃ line, m.program.line? s'.line = some line := by
  have hhalts : m.Halts s (.failed s' cause) := ⟨nofun, n, h⟩
  obtain ⟨t, -, hstep⟩ := hhalts.exists_step
  obtain ⟨hkept, hline⟩ := line_of_failed hstep
  rwa [hkept]

/-- No run opens or closes the console. -/
theorem closed_run (m : Machine) (s : State) (n : Nat) :
    (m.run n s).state.console.closed = s.console.closed :=
  run_state_induction (P := fun t => t.console.closed = s.console.closed)
    (fun t ht => (m.stepped t).closed.trans ht) rfl n

end Machine

/-! ### Results -/

namespace Outcome

/-- The verdict on a run of a program that has come to an outcome. -/
def verdict (p : Program) : Outcome → Verdict
  | running _ => .unfinished
  | finished _ => .ok
  | failed s (.script fault) => .error (.atLine fault s.line ((p.line? s.line).getD []))
  | failed _ cause => .refused cause

/-- What is noted of a run of a program that has come to an outcome. -/
def stopNote (p : Program) : Outcome → Journal
  | failed s (.script fault) => #[.stopped p.filename (s.line + 1) fault.message]
  | _ => #[]

/-- The result of a run of a program that has come to an outcome. -/
def result (p : Program) (o : Outcome) : RunResult where
  verdict := o.verdict p
  store := o.state.store
  console := Console.close
    { o.state.console with written := o.state.console.written ++ (o.verdict p).reportLines }
  journal := o.state.journal ++ o.stopNote p

theorem output_result (p : Program) (o : Outcome) :
    (o.result p).console.output = o.state.console.output ++ (o.verdict p).reportText := by
  rw [result, Console.output_close, Console.output, joinLines_append]
  rfl

theorem input_result (p : Program) (o : Outcome) :
    (o.result p).console.input = o.state.console.input := by
  rw [result, Console.close]
  split <;> rfl

/-- The report notes no execution. -/
theorem dispatches_result (p : Program) (o : Outcome) :
    (o.result p).journal.dispatches = o.state.journal.dispatches := by
  have hnone : (o.stopNote p).toList.filterMap Event.dispatch? = [] := by
    unfold stopNote
    split <;> rfl
  rw [result, Journal.dispatches, Array.toList_append, List.filterMap_append, hnone,
    List.append_nil]
  rfl

theorem verdict_eq_unfinished_iff {p : Program} {o : Outcome} :
    o.verdict p = .unfinished ↔ ∃ s, o = .running s := by
  match o with
  | .running s => simp [verdict]
  | .finished s => simp [verdict]
  | .failed s cause => cases cause <;> simp [verdict]

theorem verdict_eq_ok_iff {p : Program} {o : Outcome} :
    o.verdict p = .ok ↔ ∃ s, o = .finished s := by
  match o with
  | .running s => simp [verdict]
  | .finished s => simp [verdict]
  | .failed s cause => cases cause <;> simp [verdict]

end Outcome

/-- Reporting on an outcome gives its result, if the console is open and the failure is at a line of
the program. -/
theorem Machine.finish_eq_result {m : Machine} {o : Outcome}
    (hopen : o.state.console.closed = false)
    (hline : ∀ s cause, o = .failed s cause → ∃ line, m.program.line? s.line = some line) :
    m.finish o = o.result m.program := by
  -- An outcome without a report is settled as it stands.
  have hplain (v : Verdict) (s : State) :
      (⟨v, s.store, s.console.close, s.journal⟩ : RunResult) =
        ⟨v, s.store, Console.close { s.console with written := s.console.written ++ #[] },
          s.journal ++ #[]⟩ := by
    rw [Array.append_empty, Array.append_empty]
  match o with
  | .running s => exact hplain .unfinished s
  | .finished s => exact hplain .ok s
  | .failed s cause =>
    cases cause with
    | script fault =>
      obtain ⟨line, hline⟩ := hline s _ rfl
      rw [finish, settle, conclude_of_line hline hopen, Outcome.result, Outcome.verdict, hline]
      rfl
    | _ => exact hplain (.refused _) s

/-- **Running a program reports on the outcome of its last step.** -/
theorem interpret_eq_result (settings : Settings) (limit : Nat) (filename : String) (p : Program)
    (store : Store) (console : Console) :
    interpret settings limit filename (.program p) store console =
      (Machine.run ⟨p, settings⟩ limit { store, console := console.enter }).result p :=
  Machine.finish_eq_result (m := ⟨p, settings⟩) (Machine.closed_run ⟨p, settings⟩ _ limit)
    fun _ _ => Machine.line_of_run_failed

end LineScript
