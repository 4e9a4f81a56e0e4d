-- SUMMARY: The line and column of an offset by the line that it lies on, and that the two name the offset.
import Mathlib.Data.List.Induction
import CustomElement.Text.Lines

/-! ## Offsets by line and column

An offset lies on one line of its text: what stands between the line feeds, or the ends of the
text, on either side of it. Its line counts the line feeds before it, its column the characters
before it on the line, both from one. Splitting the text at its line feeds gives the same line, and
line and column together tell the offset. -/

namespace CustomElement.Text

/-! ## The line of an offset -/

/-- After the text a line begins: at the very start, or after a line feed. -/
def BeforeLine (cs : List Char) : Prop := cs = [] ∨ ∃ front, cs = front ++ ['\n']

/-- Before the text a line ends: at the very end, or with a line feed. -/
def AfterLine (cs : List Char) : Prop := cs = [] ∨ ∃ back, cs = '\n' :: back

/-- An offset lies on a line of a text: at the line's start, inside it, or at its end. -/
structure LiesOnLine (cs : List Char) (k : Nat) (before line after : List Char) : Prop where
  split : cs = before ++ line ++ after
  starts : BeforeLine before
  ends : AfterLine after
  unbroken : '\n' ∉ line
  behind : before.length ≤ k
  within : k ≤ before.length + line.length

/-- A text ends with a line that has begun after a line feed or at its start. -/
theorem exists_last_line (cs : List Char) :
    ∃ before line, cs = before ++ line ∧ BeforeLine before ∧ '\n' ∉ line := by
  induction cs using List.reverseRecOn with
  | nil => exact ⟨[], [], rfl, .inl rfl, List.not_mem_nil⟩
  | append_singleton cs c ih =>
    by_cases hc : c = '\n'
    · exact ⟨cs ++ [c], [], by simp, .inr ⟨cs, by rw [hc]⟩, List.not_mem_nil⟩
    · obtain ⟨before, line, rfl, hstarts, hline⟩ := ih
      exact ⟨before, line ++ [c], by simp, hstarts, by simpa using ⟨hline, Ne.symm hc⟩⟩

/-- A text begins with a line that goes on to a line feed or to its end. -/
theorem exists_first_line (cs : List Char) :
    ∃ line after, cs = line ++ after ∧ AfterLine after ∧ '\n' ∉ line := by
  induction cs with
  | nil => exact ⟨[], [], rfl, .inl rfl, List.not_mem_nil⟩
  | cons c cs ih =>
    by_cases hc : c = '\n'
    · exact ⟨[], c :: cs, rfl, .inr ⟨cs, by rw [hc]⟩, List.not_mem_nil⟩
    · obtain ⟨line, after, rfl, hends, hline⟩ := ih
      exact ⟨c :: line, after, rfl, hends, by simpa using ⟨Ne.symm hc, hline⟩⟩

/-- Every offset of a text lies on a line of it. -/
theorem exists_liesOnLine {cs : List Char} {k : Nat} (h : k ≤ cs.length) :
    ∃ before line after, LiesOnLine cs k before line after := by
  obtain ⟨before, left, hbefore, hstarts, hleft⟩ := exists_last_line (cs.take k)
  obtain ⟨right, after, hafter, hends, hright⟩ := exists_first_line (cs.drop k)
  have hk : k = before.length + left.length := by
    rw [← List.length_append, ← hbefore, List.length_take, Nat.min_eq_left h]
  refine ⟨before, left ++ right, after, ?_, hstarts, hends, by simp [hleft, hright], by omega, ?_⟩
  · rw [← List.take_append_drop k cs, hbefore, hafter]
    simp
  · rw [List.length_append]
    omega

namespace LiesOnLine

variable {cs before line after : List Char} {k : Nat}

/-- The text before the offset: the lines before, and the start of the line. -/
theorem take_eq (h : LiesOnLine cs k before line after) :
    cs.take k = before ++ line.take (k - before.length) := by
  have hbehind := h.behind
  have hwithin := h.within
  have hk : k = before.length + (k - before.length) := by omega
  rw [h.split, List.append_assoc, hk, List.take_length_add_append,
    List.take_append_of_le_length (by omega), Nat.add_sub_cancel_left]

/-- The line feeds before the offset are those before its line. -/
theorem count_take (h : LiesOnLine cs k before line after) :
    (cs.take k).count '\n' = before.count '\n' := by
  have hnone : (line.take (k - before.length)).count '\n' = 0 :=
    List.count_eq_zero.mpr fun hmem => h.unbroken (List.mem_of_mem_take hmem)
  rw [h.take_eq, List.count_append, hnone, Nat.add_zero]

end LiesOnLine

/-! ## Columns -/

/-- After characters without a line feed the column has moved on by their number. -/
theorem columnAfter_append {cs ds : List Char} (h : '\n' ∉ ds) :
    columnAfter (cs ++ ds) = columnAfter cs + ds.length := by
  have hall : ∀ d ∈ ds.reverse, decide (d ≠ '\n') = true := by
    intro d hd
    have hmem : d ∈ ds := List.mem_reverse.mp hd
    exact decide_eq_true fun heq => h (heq ▸ hmem)
  rw [columnAfter, List.reverse_append, List.takeWhile_append_of_pos hall, List.length_append,
    List.length_reverse, columnAfter]
  omega

/-- A line begins at the first column. -/
theorem columnAfter_of_beforeLine {cs : List Char} (h : BeforeLine cs) : columnAfter cs = 1 := by
  rcases h with rfl | ⟨front, rfl⟩
  · rfl
  · simp [columnAfter]

theorem LiesOnLine.columnAfter_take {cs before line after : List Char} {k : Nat}
    (h : LiesOnLine cs k before line after) :
    columnAfter (cs.take k) = 1 + (k - before.length) := by
  have hnone : '\n' ∉ line.take (k - before.length) :=
    fun hmem => h.unbroken (List.mem_of_mem_take hmem)
  have hwithin := h.within
  rw [h.take_eq, columnAfter_append hnone, columnAfter_of_beforeLine h.starts, List.length_take]
  omega

/-! ## Lines by splitting -/

theorem linesOf_append_newline (cs ds : List Char) :
    linesOf (cs ++ '\n' :: ds) = linesOf cs ++ linesOf ds := by
  induction cs with
  | nil => simp [linesOf]
  | cons c cs ih =>
    by_cases hc : c = '\n'
    · simp [linesOf, hc, ih]
    · obtain ⟨line, lines, hlines⟩ := List.exists_cons_of_ne_nil (linesOf_ne_nil cs)
      simp [linesOf, hc, ih, hlines]

theorem linesOf_of_notMem {cs : List Char} (h : '\n' ∉ cs) : linesOf cs = [cs] := by
  induction cs with
  | nil => rfl
  | cons c cs ih =>
    have hc : c ≠ '\n' := fun heq => h (heq ▸ List.mem_cons_self)
    rw [linesOf, if_neg hc, ih fun hmem => h (List.mem_cons_of_mem c hmem)]

/-- There is one line more than there are line feeds. -/
theorem length_linesOf (cs : List Char) : (linesOf cs).length = cs.count '\n' + 1 := by
  induction cs with
  | nil => rfl
  | cons c cs ih =>
    by_cases hc : c = '\n'
    · simp [linesOf, hc, ih]
    · obtain ⟨line, lines, hlines⟩ := List.exists_cons_of_ne_nil (linesOf_ne_nil cs)
      rw [hlines] at ih
      simpa [linesOf, hc, hlines] using ih

/-- A text that begins with a line has that line first. -/
theorem head?_linesOf {line after : List Char} (hline : '\n' ∉ line) (hends : AfterLine after) :
    (linesOf (line ++ after)).head? = some line := by
  rcases hends with rfl | ⟨back, rfl⟩
  · rw [List.append_nil, linesOf_of_notMem hline, List.head?_cons]
  · rw [linesOf_append_newline, linesOf_of_notMem hline, List.singleton_append, List.head?_cons]

/-- The line of an offset is found by the number of line feeds before the offset. -/
theorem LiesOnLine.getElem?_linesOf {cs before line after : List Char} {k : Nat}
    (h : LiesOnLine cs k before line after) :
    (linesOf cs)[(cs.take k).count '\n']? = some line := by
  have hfirst := head?_linesOf h.unbroken h.ends
  rw [h.count_take, h.split, List.append_assoc]
  rcases h.starts with rfl | ⟨front, rfl⟩
  · rw [List.nil_append, List.count_nil, ← List.head?_eq_getElem?, hfirst]
  · have hcount : (front ++ ['\n']).count '\n' = (linesOf front).length := by
      rw [length_linesOf, List.count_append]
      rfl
    rw [hcount, List.append_assoc, List.singleton_append, linesOf_append_newline,
      List.getElem?_append_right (Nat.le_refl _), Nat.sub_self, ← List.head?_eq_getElem?, hfirst]

/-! ## Line and column -/

/-- The line and column of an offset. -/
structure StandsAt (cs : List Char) (k line column : Nat) : Prop where
  inside : k ≤ cs.length
  line : line = 1 + (cs.take k).count '\n'
  column : ∃ before text after, LiesOnLine cs k before text after ∧
    column = 1 + (k - before.length)

/-- Counting from the start of the text gives them. -/
theorem standsAt_after_take {cs : List Char} {k : Nat} (h : k ≤ cs.length) :
    StandsAt cs k (lineAfter (cs.take k)) (columnAfter (cs.take k)) := by
  obtain ⟨before, line, after, hline⟩ := exists_liesOnLine h
  exact ⟨h, Nat.add_comm _ _, _, _, _, hline, hline.columnAfter_take⟩

theorem StandsAt.column_eq {cs : List Char} {k line column : Nat}
    (h : StandsAt cs k line column) : column = columnAfter (cs.take k) := by
  obtain ⟨before, text, after, hline, hcolumn⟩ := h.column
  rw [hcolumn, hline.columnAfter_take]

/-- The later of two offsets on one line is in a later column. -/
theorem columnAfter_take_add {cs : List Char} {j k : Nat} (hjk : j ≤ k) (hk : k ≤ cs.length)
    (h : (cs.take j).count '\n' = (cs.take k).count '\n') :
    columnAfter (cs.take k) = columnAfter (cs.take j) + (k - j) := by
  have hsplit : cs.take k = cs.take j ++ (cs.take k).drop j := by
    have := List.take_append_drop j (cs.take k)
    rwa [List.take_take, Nat.min_eq_left hjk, eq_comm] at this
  have hnone : '\n' ∉ (cs.take k).drop j := by
    have hcount := congrArg (List.count '\n') hsplit
    rw [List.count_append] at hcount
    exact List.count_eq_zero.mp (by omega)
  rw [hsplit, columnAfter_append hnone, List.length_drop, List.length_take, Nat.min_eq_left hk]

/-- Line and column tell the offset. -/
theorem StandsAt.unique {cs : List Char} {j k line column : Nat} (hj : StandsAt cs j line column)
    (hk : StandsAt cs k line column) : j = k := by
  have hcount : (cs.take j).count '\n' = (cs.take k).count '\n' := by
    have := hj.line
    have := hk.line
    omega
  have hcolumn := hj.column_eq.symm.trans hk.column_eq
  rcases Nat.le_total j k with hle | hle
  · have := columnAfter_take_add hle hk.inside hcount
    omega
  · have := columnAfter_take_add hle hj.inside hcount.symm
    omega

end CustomElement.Text
