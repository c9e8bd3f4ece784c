import LineScript.Text.Range

/-!
# Blank characters

A character is blank when Unicode gives it the bidirectional class of a separator or of white
space, or the general category of a space: tabs, line and page breaks, the information separators,
and the spaces of every width. Blank characters separate words and surround lines; only the plain
space `U+0020` counts as indentation.
-/

namespace LineScript.Text

/-- The code points of the blank characters. -/
def blankRanges : List (Nat × Nat) :=
  [(0x9, 0xD), (0x1C, 0x20), (0x85, 0x85), (0xA0, 0xA0), (0x1680, 0x1680), (0x2000, 0x200A),
   (0x2028, 0x2029), (0x202F, 0x202F), (0x205F, 0x205F), (0x3000, 0x3000)]

theorem isAscending_blankRanges : isAscending blankRanges = true := by decide +kernel

/-- Whether a character is blank. -/
def isBlank (c : Char) : Bool := inRanges blankRanges c.toNat

/-- The text without the blank characters it starts with. -/
def trimLeft (t : Text) : Text := t.dropWhile isBlank

/-- The text without the blank characters it ends with. -/
def trimRight (t : Text) : Text := (t.reverse.dropWhile isBlank).reverse

/-- The text without the blank characters around it. -/
def trim (t : Text) : Text := trimLeft (trimRight t)

/-- Whether a text holds blank characters only. -/
def allBlank (t : Text) : Bool := t.all isBlank

theorem length_trimLeft_le (t : Text) : (trimLeft t).length ≤ t.length :=
  List.Sublist.length_le (List.dropWhile_sublist _)

end LineScript.Text
