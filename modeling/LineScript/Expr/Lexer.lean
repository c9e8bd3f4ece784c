import LineScript.Expr.Token
import LineScript.Fault
import LineScript.Text.Blank
import LineScript.Text.Digit
import LineScript.Text.Letter

/-!
# From text to tokens

Blank characters separate tokens and are otherwise skipped. A token is the longest run of ASCII
digits, the longest word that starts with an ASCII letter or the low line (which has to be a single
character), one of `==`, `>=` and `<=`, or one of the characters `+ - * / < > ( )`. No token starts
with any other character.
-/

namespace LineScript.Token

open Text

/-- The token a single character makes by itself. -/
def ofSign? : Char → Option Token
  | '+' => some (.operator (.binary (.arithmetic .add)))
  | '-' => some (.operator (.binary (.arithmetic .subtract)))
  | '*' => some (.operator (.binary (.arithmetic .multiply)))
  | '/' => some (.operator (.binary (.arithmetic .divide)))
  | '<' => some (.operator (.binary (.comparison .less)))
  | '>' => some (.operator (.binary (.comparison .greater)))
  | '(' => some .leftParen
  | ')' => some .rightParen
  | _ => none

/-- The comparison made by a character that is followed by `=`. -/
def ofSignEqual? : Char → Option Token
  | '=' => some (.operator (.binary (.comparison .equal)))
  | '>' => some (.operator (.binary (.comparison .greaterEqual)))
  | '<' => some (.operator (.binary (.comparison .lessEqual)))
  | _ => none

/-- The operator or parenthesis at the start of a text, and what follows it. -/
def scanSign (c : Char) (rest : Text) : Except Fault (Token × Text) :=
  match rest, ofSignEqual? c with
  | '=' :: rest', some token => .ok (token, rest')
  | _, _ =>
    match ofSign? c with
    | some token => .ok (token, rest)
    | none => .error (.unrecognizedCharacter c)

/-- The token at the start of a text that does not start with a blank, and what follows it. -/
def scan (c : Char) (rest : Text) : Except Fault (Token × Text) :=
  if isPlainDigit c then
    .ok (.operand (c :: rest.takeWhile isPlainDigit), rest.dropWhile isPlainDigit)
  else if isNameStart c then
    match rest.takeWhile isWordChar with
    | [] => .ok (.operand [c], rest)
    | more => .error (.longName (c :: more))
  else scanSign c rest

theorem length_of_scanSign {c : Char} {rest rest' : Text} {token : Token}
    (h : scanSign c rest = .ok (token, rest')) : rest'.length ≤ rest.length := by
  unfold scanSign at h
  split at h
  · cases h; simp
  · split at h <;> cases h
    exact Nat.le_refl _

theorem length_of_scan {c : Char} {rest rest' : Text} {token : Token}
    (h : scan c rest = .ok (token, rest')) : rest'.length ≤ rest.length := by
  unfold scan at h
  split at h
  · cases h
    exact (List.dropWhile_sublist _).length_le
  · split at h
    · split at h <;> cases h
      exact Nat.le_refl _
    · exact length_of_scanSign h

/-- The tokens of a text. -/
def tokenize (t : Text) : Except Fault (List Token) :=
  match _ht : trimLeft t with
  | [] => .ok []
  | c :: rest =>
    match _hs : scan c rest with
    | .error fault => .error fault
    | .ok (token, rest') => (tokenize rest').map (token :: ·)
termination_by t.length
decreasing_by
  have h₁ := length_trimLeft_le t
  have h₂ := length_of_scan _hs
  simp_all only [List.length_cons]
  omega

end LineScript.Token
