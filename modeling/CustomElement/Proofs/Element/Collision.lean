-- SUMMARY: Which names of ASCII characters have the same tag: those that differ in the case of the first letter.
import Mathlib
import CustomElement.Proofs.Element.Tag
import CustomElement.Proofs.Syntax.Decoding

/-! ## Names that share a tag

In the tag of a name of ASCII letters, digits, underscores and dollar signs a hyphen says that the
letter behind it was upper case, so that the name can be told from the tag. The hyphen of a first
letter is dropped, and with it the case of that letter. -/

namespace CustomElement.Element

open Syntax

/-! ## Characters -/

/-- The tables agree with ASCII. -/
theorem tables_ascii : ∀ n < 128, Text.isUpper (Char.ofNat n) = (Char.ofNat n).isUpper ∧
    ((Char.ofNat n).isUpper = true → Text.lowerChar (Char.ofNat n) = [(Char.ofNat n).toLower]) := by
  decide +kernel

variable {c d : Char} {xs ys : List Char}

theorem toNat_lt_of_isWordChar (h : isWordChar c = true) : c.toNat < 128 := by
  simp only [isWordChar, Char.isAlphanum, Char.isAlpha, Char.isUpper, Char.isLower, Char.isDigit,
    Bool.or_eq_true, Bool.and_eq_true, decide_eq_true_eq, UInt32.le_iff_toNat_le, ge_iff_le] at h
  rcases h with (h | rfl) | rfl
  · change ((65 ≤ c.toNat ∧ c.toNat ≤ 90) ∨ (97 ≤ c.toNat ∧ c.toNat ≤ 122)) ∨
      (48 ≤ c.toNat ∧ c.toNat ≤ 57) at h
    omega
  · decide
  · decide

/-- What stands for a character of a name: a letter in upper case has a hyphen before its lower-case
form, any other character stands for itself. -/
theorem kebabChar_of_isWordChar (h : isWordChar c = true) :
    kebabChar c = if c.isUpper then ['-', c.toLower] else [c] := by
  obtain ⟨hupper, hlower⟩ := tables_ascii c.toNat (toNat_lt_of_isWordChar h)
  rw [Char.ofNat_toNat] at hupper hlower
  unfold kebabChar
  rw [hupper]
  split
  · next hc => rw [hlower hc]
  · rfl

theorem ne_hyphen_of_isWordChar (h : isWordChar c = true) : c ≠ '-' := by
  rintro rfl
  cases h

theorem toUpper_toLower_of_isUpper (h : c.isUpper = true) : c.toLower.toUpper = c := by
  rw [Char.toUpper_toLower_eq_toUpper]
  exact Char.toUpper_eq_of_not_isLower (Char.not_isLower_of_isUpper h)

/-- A letter in upper case can be told from its lower-case form. -/
theorem eq_of_toLower_eq (hc : c.isUpper = true) (hd : d.isUpper = true)
    (h : c.toLower = d.toLower) : c = d := by
  rw [← toUpper_toLower_of_isUpper hc, h, toUpper_toLower_of_isUpper hd]

theorem toLower_ne_hyphen (h : isWordChar c = true) : c.toLower ≠ '-' := by
  intro hhyphen
  apply ne_hyphen_of_isWordChar h
  by_cases hupper : c.isUpper = true
  · rw [← toUpper_toLower_of_isUpper hupper, hhyphen]
    rfl
  · rw [← Char.toLower_eq_of_not_isUpper hupper, hhyphen]

/-! ## Names -/

/-- A character and what follows it can be told from what stands for them in a tag. -/
theorem kebabChar_append_inj (hc : isWordChar c = true) (hd : isWordChar d = true)
    (h : kebabChar c ++ xs = kebabChar d ++ ys) : c = d ∧ xs = ys := by
  rw [kebabChar_of_isWordChar hc, kebabChar_of_isWordChar hd] at h
  split_ifs at h with hcu hdu hdu
  · obtain ⟨hform, hrest⟩ := by simpa using h
    exact ⟨eq_of_toLower_eq hcu hdu hform, hrest⟩
  · obtain ⟨hhyphen, -⟩ := List.cons.inj h
    exact absurd hhyphen.symm (ne_hyphen_of_isWordChar hd)
  · obtain ⟨hhyphen, -⟩ := List.cons.inj h
    exact absurd hhyphen (ne_hyphen_of_isWordChar hc)
  · exact List.cons.inj h

/-- Before hyphens are dropped, no two names are the same. -/
theorem flatMap_kebabChar_inj (hxs : ∀ c ∈ xs, isWordChar c = true)
    (hys : ∀ c ∈ ys, isWordChar c = true) (h : xs.flatMap kebabChar = ys.flatMap kebabChar) :
    xs = ys := by
  have hne {c : Char} (hc : isWordChar c = true) (rest : List Char) : kebabChar c ++ rest ≠ [] := by
    rw [kebabChar_of_isWordChar hc]
    split <;> simp
  induction xs generalizing ys with
  | nil =>
    cases ys with
    | nil => rfl
    | cons d ys => exact absurd h.symm (hne (hys d List.mem_cons_self) _)
  | cons c xs ih =>
    obtain ⟨hc, hcs⟩ := List.forall_mem_cons.mp hxs
    cases ys with
    | nil => exact absurd h (hne hc _)
    | cons d ys =>
      obtain ⟨hd, hds⟩ := List.forall_mem_cons.mp hys
      obtain ⟨rfl, hrest⟩ := kebabChar_append_inj hc hd h
      rw [ih hcs hds hrest]

/-- A name in a tag begins with its first character in lower case. -/
theorem kebab_cons (hc : isWordChar c = true) (xs : List Char) :
    kebab (c :: xs) = c.toLower :: xs.flatMap kebabChar := by
  unfold kebab
  rw [List.flatMap_cons, kebabChar_of_isWordChar hc]
  split
  · simp [toLower_ne_hyphen hc]
  · next hupper => simp [ne_hyphen_of_isWordChar hc, Char.toLower_eq_of_not_isUpper hupper]

/-! ## Tags -/

/-- The same letter, once in upper and once in lower case. -/
def DifferInCase (c d : Char) : Prop :=
  (c.isUpper = true ∧ d = c.toLower) ∨ (d.isUpper = true ∧ c = d.toLower)

theorem toLower_eq_iff : c.toLower = d.toLower ↔ c = d ∨ DifferInCase c d := by
  constructor
  · intro h
    by_cases hc : c.isUpper = true
    · by_cases hd : d.isUpper = true
      · exact .inl (eq_of_toLower_eq hc hd h)
      · rw [Char.toLower_eq_of_not_isUpper hd] at h
        exact .inr (.inl ⟨hc, h.symm⟩)
    · rw [Char.toLower_eq_of_not_isUpper hc] at h
      by_cases hd : d.isUpper = true
      · exact .inr (.inr ⟨hd, h⟩)
      · rw [Char.toLower_eq_of_not_isUpper hd] at h
        exact .inl h
  · rintro (rfl | ⟨-, rfl⟩ | ⟨-, rfl⟩)
    · rfl
    · exact (Char.toLower_toLower_eq_toLower c).symm
    · exact Char.toLower_toLower_eq_toLower d

theorem kebab_eq_iff (hxs : ∀ c ∈ xs, isWordChar c = true) (hys : ∀ c ∈ ys, isWordChar c = true) :
    kebab xs = kebab ys ↔
      xs = ys ∨ ∃ c d rest, xs = c :: rest ∧ ys = d :: rest ∧ DifferInCase c d := by
  cases xs with
  | nil =>
    cases ys with
    | nil => simp
    | cons d ys =>
      rw [kebab_cons (hys d List.mem_cons_self)]
      simp [kebab]
  | cons c xs =>
    obtain ⟨hc, hcs⟩ := List.forall_mem_cons.mp hxs
    cases ys with
    | nil =>
      rw [kebab_cons hc]
      simp [kebab]
    | cons d ys =>
      obtain ⟨hd, hds⟩ := List.forall_mem_cons.mp hys
      rw [kebab_cons hc, kebab_cons hd, List.cons.injEq, toLower_eq_iff]
      constructor
      · rintro ⟨hcd, hrest⟩
        obtain rfl := flatMap_kebabChar_inj hcs hds hrest
        exact hcd.imp (fun h => by rw [h]) fun h => ⟨c, d, xs, rfl, rfl, h⟩
      · rintro (h | ⟨_, _, rest, h, h', hcd⟩)
        · cases h
          exact ⟨.inl rfl, rfl⟩
        · cases h
          cases h'
          exact ⟨.inr hcd, rfl⟩

/-- Two names of ASCII letters, digits, underscores and dollar signs have the same tag exactly if they
are the same or differ in the case of their first letter alone. -/
theorem tagName_eq_iff (start : String) {a b : String}
    (ha : ∀ c ∈ a.toList, isWordChar c = true) (hb : ∀ c ∈ b.toList, isWordChar c = true) :
    tagName start a = tagName start b ↔
      a = b ∨ ∃ c d rest, a.toList = c :: rest ∧ b.toList = d :: rest ∧ DifferInCase c d := by
  rw [← String.toList_inj, ← String.toList_inj, toList_tagName, toList_tagName,
    List.append_cancel_left_eq, kebab_eq_iff ha hb]

/-- Two names of components share a tag, and a third one with the same letters does not. -/
theorem tagName_eq_iff_button :
    (∀ c ∈ "MyButton".toList, isWordChar c = true) ∧ (∀ c ∈ "myButton".toList, isWordChar c = true) ∧
      (∀ c ∈ "Mybutton".toList, isWordChar c = true) ∧
      tagName "ui-" "MyButton" = tagName "ui-" "myButton" ∧
      tagName "ui-" "MyButton" ≠ tagName "ui-" "Mybutton" := by
  have hfirst : ∀ c ∈ "MyButton".toList, isWordChar c = true := by simp [isWordChar]
  have hsecond : ∀ c ∈ "myButton".toList, isWordChar c = true := by simp [isWordChar]
  have hthird : ∀ c ∈ "Mybutton".toList, isWordChar c = true := by simp [isWordChar]
  refine ⟨hfirst, hsecond, hthird, ?_, ?_⟩
  · exact (tagName_eq_iff "ui-" hfirst hsecond).mpr
      (.inr ⟨'M', 'm', "yButton".toList, rfl, rfl, .inl ⟨rfl, rfl⟩⟩)
  · intro h
    rcases (tagName_eq_iff "ui-" hfirst hthird).mp h with heq | ⟨c, d, rest, hc, hd, hcase⟩
    · exact absurd heq (by decide)
    · -- what follows the first letter differs
      exact absurd ((List.cons.inj hc).2.trans (List.cons.inj hd).2.symm) (by decide)

end CustomElement.Element
