import LineScript.File.Load
import LineScript.Proofs.LineEnds
import LineScript.Proofs.Utf8

/-!
# Programs from files

A file that holds the encoding of a text is loaded as a program with the lines of the text. The
program has another text, since the line ends have been rewritten on the way, but cutting a text
into lines does not depend on how its line ends are spelled. So the file and the text run alike, and
the name that is noted with a fault is the only difference (`Program.load_of_file`).
-/

namespace LineScript

open Text

namespace Program

variable {tree : FileTree} {path : Path} {bytes : List UInt8}

theorem load_of_encode {s : Text} (hfile : tree.find path = .file (Utf8.encode s)) :
    load tree .utf8 path = .ok (.ofText (Text.toString path.text) (unifyBreaks s)) := by
  have hdecode : Encoding.utf8.decode (Utf8.encode s) = .ok s := Utf8.decodeFrom_encode 0 s
  rw [load, hfile, ofNode, hdecode]

/-- A file that holds the encoding of no text is refused at a byte in front of which it does. -/
theorem load_of_not_valid (hfile : tree.find path = .file bytes)
    (hvalid : ¬bytes.toByteArray.IsValidUTF8) :
    ∃ fault, load tree .utf8 path = .error (.undecodable path fault) ∧
      bytes[fault.position]? = some fault.byte ∧
      (bytes.take fault.position).toByteArray.IsValidUTF8 := by
  obtain ⟨t, rfl⟩ | ⟨t, a, rest, length, reason, rfl, herror⟩ := Utf8.encode_or_refused 0 bytes
  · exact absurd (Utf8.isValidUTF8_encode t) hvalid
  · have hdecode : Encoding.utf8.decode (Utf8.encode t ++ a :: rest) = .error _ := herror
    refine ⟨_, by rw [load, hfile, ofNode, hdecode], ?_, ?_⟩
    · simp
    · simpa using Utf8.isValidUTF8_encode t

/-- **Files and texts**: the lines of a text hold the whole text but for the spelling of its line
ends. A file that holds the encoding of the text has the same lines, and it runs like the text. A
file that holds the encoding of no text is refused at a byte in front of which it does. -/
theorem load_of_file (filename : String) (s : Text) :
    let q := ofText filename s
    (∀ line ∈ q.lines, ∀ c ∈ line, isBreak c = false) ∧
      unlines q.lines.toList ++ (if s.getLast?.any isBreak then ['\n'] else []) = unifyBreaks s ∧
      ∀ tree path bytes, FileTree.find tree path = .file bytes →
        (bytes.toByteArray = s.utf8Encode → ∃ p, load tree .utf8 path = .ok p ∧
          p.lines = q.lines ∧ ∀ settings limit store console,
            let r := interpret settings limit defaultName (.program p) store console
            let r' := interpret settings limit filename (.text s) store console
            r.verdict = r'.verdict ∧ r.store = r'.store ∧ r.console = r'.console ∧
              (filename = Text.toString path.text → r = r')) ∧
        (¬bytes.toByteArray.IsValidUTF8 → ∃ fault,
          load tree .utf8 path = .error (.undecodable path fault) ∧
            bytes[fault.position]? = some fault.byte ∧
            (bytes.take fault.position).toByteArray.IsValidUTF8) := by
  intro q
  refine ⟨fun line hline => isBreak_of_mem_lines (List.mem_toArray.mp hline), unlines_lines s,
    fun tree path bytes hfile => ⟨fun hbytes => ?_, load_of_not_valid hfile⟩⟩
  obtain rfl := Utf8.toByteArray_eq_iff.mp hbytes
  have hlines : (ofText (Text.toString path.text) (unifyBreaks s)).lines = q.lines := by
    simp [q, ofText, lines_unifyBreaks]
  refine ⟨_, load_of_encode hfile, hlines, fun settings limit store console => ?_⟩
  obtain ⟨hverdict, hstore, hconsole, hresult⟩ :=
    interpret_of_lines hlines settings limit defaultName filename store console
  exact ⟨hverdict, hstore, hconsole, fun hname => hresult hname.symm⟩

/-- A blank line in characters of two and three bytes, an empty line and a statement, with line ends
of all spellings; and a file with the bytes of a surrogate. -/
theorem load_of_file_blank :
    let s : Text := ['\u00A0', '\u2028', '\r', '\r', '\n', 'p', 'r', 'i', 'n', 't', ' ', '1', '\n']
    let bytes : List UInt8 :=
      [0xC2, 0xA0, 0xE2, 0x80, 0xA8, 13, 13, 10, 112, 114, 105, 110, 116, 32, 49, 10]
    let surrogate : List UInt8 := [112, 0xED, 0xA0, 0x80]
    let tree : FileTree := ⟨[([['f']], some bytes), ([['g']], some surrogate)]⟩
    bytes.toByteArray = s.utf8Encode ∧ ¬surrogate.toByteArray.IsValidUTF8 ∧
      (∃ p, load tree .utf8 (.ofText ['f']) = .ok p ∧
        p.lines = #[['\u00A0', '\u2028'], [], ['p', 'r', 'i', 'n', 't', ' ', '1']] ∧
        interpret .standard 9 defaultName (.program p) .empty {} =
          interpret .standard 9 "f" (.text s) .empty {}) ∧
      ∃ fault, load tree .utf8 (.ofText ['g']) = .error (.undecodable (.ofText ['g']) fault) := by
  intro s bytes surrogate tree
  have hbytes : bytes.toByteArray = s.utf8Encode := by decide +kernel
  have hsurrogate : ¬surrogate.toByteArray.IsValidUTF8 := by decide +kernel
  obtain ⟨-, -, hload⟩ := load_of_file "f" s
  obtain ⟨p, hp, hlines, hrun⟩ := (hload tree (.ofText ['f']) bytes (by decide)).1 hbytes
  obtain ⟨fault, hfault, -, -⟩ := (hload tree (.ofText ['g']) surrogate (by decide)).2 hsurrogate
  refine ⟨hbytes, hsurrogate, ⟨p, hp, hlines.trans (by decide), ?_⟩, fault, hfault⟩
  obtain ⟨-, -, -, hresult⟩ := hrun .standard 9 .empty {}
  exact hresult (by decide)

end Program

end LineScript
