-- SUMMARY: Lines of a text, the line and column of a place in it, and line ends.

/-! ## Lines

A line ends at a line feed and nowhere else. Lines and columns are counted from one. Text from a
file is read with every carriage return, alone or before a line feed, as one line feed. -/

namespace CustomElement.Text

/-- The lines of a text; there is always at least one. -/
def linesOf : List Char → List (List Char)
  | [] => [[]]
  | c :: cs =>
    if c = '\n' then [] :: linesOf cs
    else match linesOf cs with
      | [] => [[c]]
      | line :: lines => (c :: line) :: lines

/-- The texts with a separator between each two. -/
def joinChars (separator : List Char) : List (List Char) → List Char
  | [] => []
  | [line] => line
  | line :: lines => line ++ separator ++ joinChars separator lines

/-- The number of the line on which the text after some characters goes on. -/
def lineAfter (before : List Char) : Nat := before.count '\n' + 1

/-- The column at which the text after some characters goes on. -/
def columnAfter (before : List Char) : Nat :=
  (before.reverse.takeWhile (· ≠ '\n')).length + 1

/-- The text with a line feed for every line end. -/
def unifyLineEnds : List Char → List Char
  | [] => []
  | '\r' :: '\n' :: cs => '\n' :: unifyLineEnds cs
  | '\r' :: cs => '\n' :: unifyLineEnds cs
  | c :: cs => c :: unifyLineEnds cs

theorem linesOf_ne_nil (cs : List Char) : linesOf cs ≠ [] := by
  cases cs with
  | nil => simp [linesOf]
  | cons c cs =>
    simp only [linesOf]
    split
    · simp
    · split <;> simp

/-- The lines, joined, are the text. -/
theorem joinChars_linesOf (cs : List Char) : joinChars ['\n'] (linesOf cs) = cs := by
  induction cs with
  | nil => simp [linesOf, joinChars]
  | cons c cs ih =>
    simp only [linesOf]
    split
    · next h =>
      obtain ⟨line, lines, hl⟩ := List.exists_cons_of_ne_nil (linesOf_ne_nil cs)
      rw [hl] at ih ⊢
      simp [joinChars, ih, h]
    · obtain ⟨line, lines, hl⟩ := List.exists_cons_of_ne_nil (linesOf_ne_nil cs)
      rw [hl] at ih ⊢
      cases lines with
      | nil => simpa [joinChars] using ih
      | cons l ls => simpa [joinChars] using ih

end CustomElement.Text
