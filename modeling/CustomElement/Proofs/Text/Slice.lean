-- SUMMARY: Slices between offsets inside a text: as characters, side by side, and the whole text.
import Mathlib.Data.List.Basic
import CustomElement.Text.Slice

/-! ## Slices inside a text

Between offsets that lie inside the text a slice is what stands there, and slices that meet make up
the slice over both. -/

namespace CustomElement.Text

/-- The stretches before and behind an offset make up the whole stretch. -/
theorem drop_take_append {α : Type} (xs : List α) {a b c : Nat} (hab : a ≤ b) (hbc : b ≤ c) :
    (xs.take b).drop a ++ (xs.take c).drop b = (xs.take c).drop a := by
  have hleft : (xs.take b).drop a = (xs.drop a).take (b - a) := by rw [List.drop_take]
  have hright : (xs.take c).drop b = ((xs.drop a).drop (b - a)).take (c - b) := by
    rw [List.drop_take, List.drop_drop]
    congr 2
    omega
  have hwhole : (xs.take c).drop a = (xs.drop a).take ((b - a) + (c - b)) := by
    rw [List.drop_take]
    congr 1
    omega
  rw [hleft, hright, hwhole, List.take_add]

variable {s : String} {a b c : Nat}

theorem slice_natCast (ha : a ≤ s.length) (hb : b ≤ s.length) :
    slice s a b = String.ofList ((s.toList.take b).drop a) := by
  have ha' : a ≤ s.toList.length := by rwa [String.length_toList]
  have hb' : b ≤ s.toList.length := by rwa [String.length_toList]
  rw [slice, sliceChars, placeOf_natCast ha', placeOf_natCast hb']

/-- The same holds of offsets behind the end: nothing stands there. -/
theorem slice_offsets (s : String) (a b : Nat) :
    slice s a b = String.ofList ((s.toList.take b).drop a) := by
  have hplace (n : Nat) : placeOf s.toList.length n = min n s.toList.length := by
    have hn : ¬ (n : Int) < 0 := by omega
    simp [placeOf, hn]
  have htake : s.toList.take (min b s.toList.length) = s.toList.take b := by
    rw [← List.take_take, List.take_length]
  rw [slice, sliceChars, hplace, hplace, htake]
  rcases Nat.le_total a s.toList.length with ha | ha
  · rw [Nat.min_eq_left ha]
  · have hlength : (s.toList.take b).length ≤ s.toList.length := List.length_take_le' b s.toList
    rw [Nat.min_eq_right ha, List.drop_eq_nil_of_le hlength,
      List.drop_eq_nil_of_le (Nat.le_trans hlength ha)]

/-- Slices that meet make up the slice over both. -/
theorem slice_append (hab : a ≤ b) (hbc : b ≤ c) (hc : c ≤ s.length) :
    slice s a b ++ slice s b c = slice s a c := by
  rw [slice_natCast (by omega) (by omega), slice_natCast (by omega) hc,
    slice_natCast (by omega) hc, ← String.ofList_append, drop_take_append _ hab hbc]

@[simp] theorem slice_self (ha : a ≤ s.length) : slice s a a = "" := by
  rw [slice_natCast ha ha, List.drop_take]
  simp

/-- The slice over everything is the text. -/
@[simp] theorem slice_length : slice s 0 s.length = s := by
  have h := slice_natCast (s := s) (a := 0) (b := s.length) (by omega) (by omega)
  rw [Int.natCast_zero] at h
  rw [h, List.drop_zero, ← String.length_toList, List.take_length, String.ofList_toList]

end CustomElement.Text
