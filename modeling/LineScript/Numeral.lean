import LineScript.Text.Digit

/-!
# Decimal numerals

Integers are unbounded, but their decimal text is not: a numeral has at most `digitLimit` digits,
leading zeros counted and the sign not. The limit is the same for writing (`decimal?`), for the
literals of an expression (`literal?`) and for a line typed at the console (`entry`).

What counts characters, lines or bits does not come near the limit and is written without regard to
it (`count`). An integer that a caller hands in may be past it: an indent unit, the line number of a
report, or an integer where a name is expected.
-/

namespace LineScript.Numeral

open Text

/-- The greatest number of digits a numeral may have. -/
def digitLimit : Nat := 4300

/-! ### Writing -/

/-- The ASCII digit of a value below ten. -/
def digitChar (d : Nat) : Char := Char.ofNat (0x30 + d)

/-- The decimal digits of `n` in front of `tail`. -/
def digitsOnto (n : Nat) (tail : Text) : Text :=
  if n < 10 then digitChar n :: tail else digitsOnto (n / 10) (digitChar (n % 10) :: tail)

/-- The decimal digits of a natural number, without leading zeros. -/
def digits (n : Nat) : Text := digitsOnto n []

/-- A count in decimal digits. -/
def count (n : Nat) : String := Text.toString (digits n)

/-- The decimal text of an integer, of whatever length. -/
def decimal (v : Int) : Text :=
  if v < 0 then '-' :: digits v.natAbs else digits v.natAbs

/-- The decimal text of an integer, if it keeps to the digit limit. -/
def decimal? (v : Int) : Option Text :=
  if v.natAbs < Nat.pow 10 digitLimit then some (decimal v) else none

/-- The number of binary digits of the absolute value, zero having none. -/
def bitLength (v : Int) : Nat := if v = 0 then 0 else v.natAbs.log2 + 1

/-! ### Reading -/

/-- The number written by decimal digits of any script, the most significant first. -/
def digitsValue? (t : Text) : Option Nat :=
  t.foldlM (fun n c => (digitValue? c).map (10 * n + ·)) 0

/-- The number written by decimal digits, if they keep to the digit limit. -/
def literal? (t : Text) : Option Nat :=
  if t.length ≤ digitLimit then digitsValue? t else none

/-- The sign of a text that starts with one (`true` for a minus), and what follows. -/
def splitSign : Text → Bool × Text
  | '-' :: rest => (true, rest)
  | '+' :: rest => (false, rest)
  | t => (false, t)

/-- What a text is when it is offered as an integer. -/
inductive Entry where
  /-- An integer within the digit limit. -/
  | integer (value : Int)
  /-- An integer past the digit limit, with the length of its text. -/
  | tooLong (length : Nat)
  /-- No integer. -/
  | other
  deriving DecidableEq

/-- Reads an optional sign followed by ASCII digits. -/
def entry (t : Text) : Entry :=
  let (negative, digits) := splitSign t
  if digits.isEmpty || !digits.all isPlainDigit then .other
  else
    match literal? digits with
    | some n => .integer (if negative then -(n : Int) else n)
    | none => .tooLong t.length

end LineScript.Numeral
