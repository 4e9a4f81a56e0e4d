-- SUMMARY: Tags begin with the prefix and have a hyphen; they are in lower case unless a name has letters in title case.
import Mathlib.Data.List.Basic
import CustomElement.Config.Settings
import CustomElement.Element.Name
import CustomElement.Proofs.Text.Case

/-! ## Tags of elements

What the settings ask of a prefix passes on to every tag that begins with it: it is not empty and
has a hyphen. That the rest of a tag is in lower case depends on the name. Its upper-case
characters are converted, but a letter in title case is not upper case, and stays. -/

namespace CustomElement.Element

open Text Config

/-! ## Prefixes -/

/-- A prefix has a hyphen. -/
theorem hyphen_mem_of_isTagPrefix {start : String} (h : isTagPrefix start = true) :
    '-' ∈ start.toList := by
  simp only [isTagPrefix, Bool.and_eq_true] at h
  exact List.contains_iff_mem.mp h.1.1

/-- A prefix is in lower case. -/
theorem lowerChar_of_isTagPrefix {start : String} (h : isTagPrefix start = true) :
    ∀ c ∈ start.toList, lowerChar c = [c] := by
  simp only [isTagPrefix, Bool.and_eq_true, beq_iff_eq] at h
  have hlower := h.1.2
  rw [lower_eq_lowerBy] at hlower
  exact (lowerBy_eq_self_iff _).mp hlower

/-! ## Names -/

/-- What stands for a character in a tag is in lower case unless the character is a letter in title
case: what is upper case is converted, and what is neither stays as it is. -/
theorem lowerChar_of_mem_kebabChar_iff {c : Char} :
    (∀ d ∈ kebabChar c, lowerChar d = [d]) ↔ isTitle c = false := by
  rw [Bool.eq_false_iff, ne_eq, isTitle_iff, not_and, not_not]
  unfold kebabChar
  split
  · next hupper =>
    have hforms : ∀ d ∈ '-' :: lowerChar c, lowerChar d = [d] := by
      intro d hd
      rcases List.mem_cons.mp hd with rfl | hd
      · exact lowerChar_hyphen
      · exact lowerChar_of_mem_lowerChar hd
    exact iff_of_true hforms fun hlower => absurd hupper (by simp [hlower])
  · next hupper => simp [hupper]

/-- Dropping hyphens loses nothing that could be out of lower case. -/
theorem lowerChar_of_mem_kebab_iff {name : List Char} :
    (∀ d ∈ kebab name, lowerChar d = [d]) ↔ ∀ c ∈ name, isTitle c = false := by
  have hdropped (cs : List Char) : (∀ d ∈ cs.dropWhile (· = '-'), lowerChar d = [d]) ↔
      ∀ d ∈ cs, lowerChar d = [d] := by
    induction cs with
    | nil => simp
    | cons c cs ih =>
      by_cases hc : c = '-'
      · simp [hc, ih, lowerChar_hyphen]
      · simp [hc]
  rw [kebab, hdropped]
  simp only [List.mem_flatMap, forall_exists_index, and_imp]
  constructor
  · intro h c hc
    exact lowerChar_of_mem_kebabChar_iff.mp fun d hd => h d c hc hd
  · intro h d c hc hd
    exact lowerChar_of_mem_kebabChar_iff.mpr (h c hc) d hd

/-! ## Tags -/

variable {start name : String}

theorem toList_tagName : (tagName start name).toList = start.toList ++ kebab name.toList := by
  simp [tagName]

/-- The tag of a name is in lower case exactly if the name has no letter in title case. -/
theorem lowerBy_tagName_iff (h : isTagPrefix start = true)
    (isFinal : List Char → List Char → Bool) :
    lowerBy isFinal (tagName start name) = tagName start name ↔
      ∀ c ∈ name.toList, isTitle c = false := by
  rw [lowerBy_eq_self_iff, toList_tagName, List.forall_mem_append, lowerChar_of_mem_kebab_iff]
  exact and_iff_right (lowerChar_of_isTagPrefix h)

/-- Every tag is a text that begins with the prefix and has a hyphen, and exactly the names without
letters in title case have a tag in lower case. Which capital sigmas are taken to end a word makes
no difference. -/
theorem tagName_wellFormed_iff (s : Settings) (name : String)
    (isFinal : List Char → List Char → Bool) :
    tagName s.tagPrefix name ≠ "" ∧
      s.tagPrefix.toList <+: (tagName s.tagPrefix name).toList ∧
      '-' ∈ (tagName s.tagPrefix name).toList ∧
      (lowerBy isFinal (tagName s.tagPrefix name) = tagName s.tagPrefix name ↔
        ∀ c ∈ name.toList, isTitle c = false) := by
  have hprefix : s.tagPrefix.toList <+: (tagName s.tagPrefix name).toList :=
    ⟨_, toList_tagName.symm⟩
  have hhyphen : '-' ∈ (tagName s.tagPrefix name).toList :=
    hprefix.subset (hyphen_mem_of_isTagPrefix s.tagPrefix_ok)
  refine ⟨?_, hprefix, hhyphen, lowerBy_tagName_iff s.tagPrefix_ok isFinal⟩
  intro hempty
  rw [hempty] at hhyphen
  cases hhyphen

/-- The tag of the letter `ǅ` is not in lower case, though the prefix in it is. -/
theorem tagName_title_not_lower :
    tagName ({} : Settings).tagPrefix "ǅ" = "fluxel-ǅ" ∧
      ∀ isFinal, lowerBy isFinal (tagName ({} : Settings).tagPrefix "ǅ") ≠
        tagName ({} : Settings).tagPrefix "ǅ" := by
  refine ⟨by decide +kernel, ?_⟩
  intro isFinal
  rw [ne_eq, lowerBy_tagName_iff isTagPrefix_fluxel]
  intro hnone
  have hletter : isTitle 'ǅ' = false := hnone 'ǅ' (by simp)
  have htitle : isTitle 'ǅ' = true := by decide
  rw [htitle] at hletter
  cases hletter

end CustomElement.Element
