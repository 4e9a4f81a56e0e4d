-- SUMMARY: How disks change: a directory is made or a file is written, one place at a time.
import Mathlib.Data.List.Basic
import Mathlib.Logic.Relation
import CustomElement.Proofs.Files.Place

/-! ## Changes

Making a directory and writing a file change a disk at one place, and only where no directory is. So
whatever is done, paths go on leading where they led, and what is at other places stays. -/

namespace CustomElement.Files

open Text (Bytes)

/-- The entry of a shape, with nothing below it. -/
def Shape.entry : Shape → Entry
  | file content => .file content
  | directory => .directory []

namespace Disk

variable {d d' d'' : Disk} {l place : Location} {x : Shape} {path p name : String}
  {cs names : List String} {content : Bytes}

/-! ## One change -/

/-- A disk arises from another one by something new at one place in a directory, where there is
nothing or a file that is written anew. -/
structure Puts (d : Disk) (l : Location) (x : Shape) (d' : Disk) : Prop where
  eq : d' = d.put l x.entry
  inside : ∃ above name, l = above ++ [name] ∧ d.shapeAt above = some .directory
  free : d.shapeAt l = none ∨ ∃ old new, d.shapeAt l = some (.file old) ∧ x = .file new

namespace Puts

theorem here_eq (h : Puts d l x d') : d'.here = d.here := by
  rw [h.eq]
  rfl

theorem ne_directory (h : Puts d l x d') : d.shapeAt l ≠ some .directory := by
  rcases h.free with hfree | ⟨old, _, hfree, _⟩
  · simp [hfree]
  · simp [hfree]

/-- The change is at the one place. -/
theorem shapeAt_eq (h : Puts d l x d') (m : Location) :
    d'.shapeAt m = if m = l then some x else d.shapeAt m := by
  obtain ⟨above, name, rfl, habove⟩ := h.inside
  obtain ⟨e, he, hshape⟩ := Option.map_eq_some_iff.mp habove
  obtain ⟨es, rfl⟩ := Entry.shape_eq_directory_iff.mp hshape
  rw [h.eq, shapeAt, put, Entry.shape?_put he]
  by_cases hm : m = above ++ [name]
  · rw [if_pos hm, if_pos (hm ▸ List.prefix_rfl), hm]
    cases x <;> simp [Entry.shape?, Shape.entry]
  · rw [if_neg hm]
    split
    · next hprefix =>
      -- below the place there was nothing, and there is nothing now
      obtain ⟨below, rfl⟩ := hprefix
      have hbelow : below ≠ [] := by simpa using hm
      obtain ⟨first, rest, rfl⟩ := List.exists_cons_of_ne_nil hbelow
      have hold : d.shapeAt (above ++ [name] ++ first :: rest) = none := by
        rw [← Option.not_isSome_iff_eq_none]
        exact fun hsome => h.ne_directory (shapeAt_above hsome (by simp))
      have hnew : x.entry.shape? (first :: rest) = none := by
        cases x <;> simp [Entry.shape?, Shape.entry, Entry.named?]
      rw [hold, List.drop_append_of_le_length (by simp)]
      simpa using hnew
    · rfl

theorem fileAt_of_directory (h : Puts d l .directory d') (m : Location) :
    d'.fileAt m = d.fileAt m := by
  have hfree : d.shapeAt l = none := by
    rcases h.free with hfree | ⟨_, _, _, hfile⟩
    · exact hfree
    · cases hfile
  rw [fileAt, fileAt, h.shapeAt_eq]
  by_cases hm : m = l
  · rw [if_pos hm, hm, hfree]
  · rw [if_neg hm]

theorem fileAt_of_file (h : Puts d l (.file content) d') (m : Location) :
    d'.fileAt m = if m = l then some content else d.fileAt m := by
  rw [fileAt, h.shapeAt_eq]
  by_cases hm : m = l
  · rw [if_pos hm, if_pos hm]
  · rw [if_neg hm, if_neg hm, fileAt]

end Puts

/-! ## What no change undoes -/

/-- Directories of a disk are directories of another one, and files files. -/
structure Keeps (d d' : Disk) : Prop where
  here : d'.here = d.here
  directory : ∀ l, d.shapeAt l = some .directory → d'.shapeAt l = some .directory
  file : ∀ l content, d.fileAt l = some content → ∃ new, d'.fileAt l = some new

namespace Keeps

theorem refl (d : Disk) : Keeps d d := ⟨rfl, fun _ h => h, fun _ content h => ⟨content, h⟩⟩

theorem trans (h : Keeps d d') (h' : Keeps d' d'') : Keeps d d'' where
  here := h'.here.trans h.here
  directory l hl := h'.directory l (h.directory l hl)
  file l content hl := by
    obtain ⟨new, hnew⟩ := h.file l content hl
    exact h'.file l new hnew

theorem isSome_shapeAt (h : Keeps d d') (hl : (d.shapeAt l).isSome) : (d'.shapeAt l).isSome := by
  obtain ⟨shape, hshape⟩ := Option.isSome_iff_exists.mp hl
  cases shape with
  | file content =>
    obtain ⟨new, hnew⟩ := h.file l content (fileAt_eq_some_iff.mpr hshape)
    rw [fileAt_eq_some_iff.mp hnew]
    rfl
  | directory =>
    rw [h.directory l hshape]
    rfl

/-- Components go on leading where they led. -/
theorem follow (h : Keeps d d') (hl : d.follow place names = .ok l) :
    d'.follow place names = .ok l := by
  induction names generalizing place with
  | nil => simpa using hl
  | cons name names ih =>
    have hdirectory := shapeAt_of_follow_cons hl
    rw [follow_cons, hdirectory] at hl
    rw [follow_cons, h.directory _ hdirectory]
    dsimp only at hl ⊢
    split_ifs at hl with hhere habove hlong hold
    · rw [if_pos hhere]
      exact ih hl
    · rw [if_neg hhere, if_pos habove]
      exact ih hl
    · rw [if_neg hhere, if_neg habove, if_neg hlong, if_pos (h.isSome_shapeAt hold)]
      exact ih hl

/-- So do paths. -/
theorem resolve (h : Keeps d d') (hl : d.resolve path = .ok l) : d'.resolve path = .ok l := by
  obtain ⟨hzero, hempty, hfollow⟩ := resolve_eq_ok_iff.mp hl
  have hstart : d'.startOf path = d.startOf path := by rw [startOf, startOf, h.here]
  exact resolve_eq_ok_iff.mpr ⟨hzero, hempty, by rw [hstart]; exact h.follow hfollow⟩

end Keeps

theorem Puts.keeps (h : Puts d l x d') : Keeps d d' where
  here := h.here_eq
  directory m hm := by
    rw [h.shapeAt_eq, if_neg, hm]
    rintro rfl
    exact h.ne_directory hm
  file m old hm := by
    rw [fileAt_eq_some_iff] at hm
    by_cases hml : m = l
    · subst hml
      rcases h.free with hfree | ⟨_, new, _, rfl⟩
      · rw [hfree] at hm
        cases hm
      · exact ⟨new, by simp [h.fileAt_of_file]⟩
    · refine ⟨old, fileAt_eq_some_iff.mpr ?_⟩
      rw [h.shapeAt_eq, if_neg hml, hm]

/-! ## Several changes -/

/-- A disk arises from another one by changes of some kind, one after the other. -/
def Grows (may : Location → Shape → Prop) : Disk → Disk → Prop :=
  Relation.ReflTransGen fun d d' => ∃ l x, may l x ∧ Puts d l x d'

namespace Grows

variable {may may' : Location → Shape → Prop}

theorem refl (d : Disk) : Grows may d d := Relation.ReflTransGen.refl

theorem trans (h : Grows may d d') (h' : Grows may d' d'') : Grows may d d'' :=
  Relation.ReflTransGen.trans h h'

theorem single (hmay : may l x) (h : Puts d l x d') : Grows may d d' :=
  Relation.ReflTransGen.single ⟨l, x, hmay, h⟩

theorem mono (h : Grows may d d') (hmay : ∀ l x, may l x → may' l x) : Grows may' d d' :=
  Relation.ReflTransGen.mono (fun _ _ ⟨l, x, hl, hputs⟩ => ⟨l, x, hmay l x hl, hputs⟩) _ _ h

theorem keeps (h : Grows may d d') : Keeps d d' := by
  induction h with
  | refl => exact Keeps.refl d
  | tail _ hstep ih =>
    obtain ⟨l, x, _, hputs⟩ := hstep
    exact ih.trans hputs.keeps

/-- Places of another kind stay as they are. -/
theorem shapeAt_eq (h : Grows may d d') (hl : ∀ x, ¬ may l x) : d'.shapeAt l = d.shapeAt l := by
  induction h with
  | refl => rfl
  | tail _ hstep ih =>
    obtain ⟨m, x, hmay, hputs⟩ := hstep
    rw [hputs.shapeAt_eq, if_neg, ih]
    rintro rfl
    exact hl x hmay

/-- Where no directory may be made, a directory was there before. -/
theorem directory_back (h : Grows may d d') (hl : ¬ may l .directory)
    (hdirectory : d'.shapeAt l = some .directory) : d.shapeAt l = some .directory := by
  induction h with
  | refl => exact hdirectory
  | tail _ hstep ih =>
    obtain ⟨m, x, hmay, hputs⟩ := hstep
    rw [hputs.shapeAt_eq] at hdirectory
    split_ifs at hdirectory with hm
    · cases hdirectory
      exact absurd (hm ▸ hmay) hl
    · exact ih hdirectory

/-- Where directories are made, files stay. -/
theorem fileAt_eq (h : Grows may d d') (hmay : ∀ l x, may l x → x = .directory) (l : Location) :
    d'.fileAt l = d.fileAt l := by
  induction h with
  | refl => rfl
  | tail _ hstep ih =>
    obtain ⟨m, x, hm, hputs⟩ := hstep
    obtain rfl := hmay m x hm
    rw [hputs.fileAt_of_directory, ih]

end Grows

end Disk

end CustomElement.Files
