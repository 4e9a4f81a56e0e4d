-- SUMMARY: Stretches of a text between two indexes that may be negative or out of range.

/-! ## Slices

An index below zero counts from the end, and an index outside the text is moved to its nearer end.
A slice whose start is not before its stop is empty. -/

namespace CustomElement.Text

/-- The place that an index names in a sequence of some length. -/
def placeOf (length : Nat) (i : Int) : Nat :=
  if i < 0 then (length + i).toNat else min i.toNat length

/-- The characters between two places. -/
def sliceChars (cs : List Char) (start stop : Int) : List Char :=
  (cs.take (placeOf cs.length stop)).drop (placeOf cs.length start)

/-- The text between two places. -/
def slice (s : String) (start stop : Int) : String :=
  String.ofList (sliceChars s.toList start stop)

theorem placeOf_natCast {length n : Nat} (h : n ≤ length) : placeOf length n = n := by
  have hn : ¬ (n : Int) < 0 := by omega
  simp [placeOf, hn, h]

end CustomElement.Text
