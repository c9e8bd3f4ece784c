/-!
# Texts and classes of characters

A program line, an expression and a line typed at the console are all a `Text`: the list of
their characters, read from the left. Classes of characters are given by the closed ranges of
code points that belong to them, in ascending order, so that looking a character up can stop at
the first range that lies beyond it: `inRanges_iff` says that nothing is missed by doing so.
-/

namespace LineScript

/-- A text is the list of its characters. -/
abbrev Text := List Char

namespace Text

/-- Whether a code point lies in one of the closed ranges of an ascending table. -/
def inRanges : List (Nat × Nat) → Nat → Bool
  | [], _ => false
  | (first, last) :: rest, n => if n < first then false else n ≤ last || inRanges rest n

/-- Whether the ranges of a table are nonempty and each ends before the next begins. -/
def isAscending : List (Nat × Nat) → Bool
  | [] => true
  | (first, last) :: rest =>
    first ≤ last && (rest.head?.all fun next => last < next.1) && isAscending rest

/-- In an ascending table every later range lies beyond the first one. -/
theorem lt_of_mem_of_isAscending {first last : Nat} {rest : List (Nat × Nat)}
    (h : isAscending ((first, last) :: rest) = true) {r : Nat × Nat} (hr : r ∈ rest) :
    last < r.1 := by
  induction rest generalizing first last with
  | nil => cases hr
  | cons next rest ih =>
    obtain ⟨first', last'⟩ := next
    have hnext : last < first' := by simp_all [isAscending]
    have hrest : isAscending ((first', last') :: rest) = true := by
      simp_all [isAscending]
    rcases List.mem_cons.1 hr with rfl | hr
    · exact hnext
    · have hle : first' ≤ last' := by simp_all [isAscending]
      have := ih hrest hr
      omega

/-- Looking a code point up in an ascending table finds the range that holds it. -/
theorem inRanges_iff {table : List (Nat × Nat)} (h : isAscending table = true) (n : Nat) :
    inRanges table n = true ↔ ∃ r ∈ table, r.1 ≤ n ∧ n ≤ r.2 := by
  induction table with
  | nil => simp [inRanges]
  | cons head rest ih =>
    obtain ⟨first, last⟩ := head
    have hrest : isAscending rest = true := by simp_all [isAscending]
    have hle : first ≤ last := by simp_all [isAscending]
    rw [inRanges]
    split
    · constructor
      · simp
      · rintro ⟨r, hr, h₁, h₂⟩
        rcases List.mem_cons.1 hr with rfl | hr
        · simp only at h₁
          omega
        · have := lt_of_mem_of_isAscending h hr
          omega
    · rw [Bool.or_eq_true, ih hrest]
      simp only [decide_eq_true_eq, List.mem_cons, exists_eq_or_imp]
      constructor
      · rintro (hn | hr)
        · exact Or.inl ⟨by omega, hn⟩
        · exact Or.inr hr
      · rintro (⟨_, hn⟩ | hr)
        · exact Or.inl hn
        · exact Or.inr hr

/-- A text written out as a string. -/
def toString (t : Text) : String := String.ofList t

/-- The text of a string. -/
def ofString (s : String) : Text := s.toList

@[simp] theorem toString_ofString (s : String) : toString (ofString s) = s := by
  simp [toString, ofString]

@[simp] theorem ofString_toString (t : Text) : ofString (toString t) = t := by
  simp [toString, ofString]

end Text

end LineScript
