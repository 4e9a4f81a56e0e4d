-- SUMMARY: The source files that a path stands for: where they are, and that none is listed twice.
import Mathlib.Data.List.Basic
import CustomElement.Proofs.Files.Walk
import CustomElement.Proofs.Files.Writing

/-! ## Searching

A path stands for a file or for all source files below a directory. Either way a source file is
found by names, and these names are its relative path. No two source files are found by the same
ones. -/

namespace CustomElement.Files

namespace Entry

theorem mem_of_named? {es : List (String × Entry)} {name : String} {e : Entry}
    (h : named? es name = some e) : (name, e) ∈ es := by
  rw [named?, Option.map_eq_some_iff] at h
  obtain ⟨⟨n, x⟩, hfind, rfl⟩ := h
  have hname : n = name := by simpa using List.find?_some hfind
  exact hname ▸ List.mem_of_find?_eq_some hfind

/-- Names of their own are inherited from above. -/
theorem isWellNamed_at? {e x : Entry} {l : Location} (h : e.isWellNamed = true)
    (hx : e.at? l = some x) : x.isWellNamed = true := by
  induction l generalizing e with
  | nil =>
    obtain rfl : e = x := by simpa using hx
    exact h
  | cons name l ih =>
    cases e with
    | file _ => cases hx
    | directory es =>
      rw [at?_directory_cons, Option.bind_eq_some_iff] at hx
      obtain ⟨child, hchild, hx⟩ := hx
      have hes : areWellNamed es = true := by simpa only [isWellNamed] using h
      exact ih (isWellNamed_of_mem hes (mem_of_named? hchild)) hx

end Entry

/-! ## The last name -/

theorem join_empty_baseName (path : String) : join "" (baseName path) = baseName path := by
  rw [join]
  split
  · rfl
  · simp

/-- The relative path of a source file is made of names, and no directory in it is left out. -/
structure SourceFile.IsNamed (f : SourceFile) (names : Location) : Prop where
  relative : f.relative = joinAll "" names
  ne_nil : names ≠ []
  isName : ∀ n ∈ names, IsName n
  notSkipped : ∀ n ∈ names.dropLast, isSkipped n = false

namespace Disk

variable {d d' : Disk} {source path : String} {l place : Location} {f : SourceFile}

/-- A path leads to a file by a name. -/
theorem isName_baseName (h : d.resolve path = .ok l) (hfile : (d.fileAt l).isSome) :
    IsName (baseName path) := by
  obtain ⟨content, hcontent⟩ := Option.isSome_iff_exists.mp hfile
  rw [fileAt_eq_some_iff] at hcontent
  obtain ⟨hzero, _, hfollow⟩ := resolve_eq_ok_iff.mp h
  obtain ⟨cs, hcs⟩ := components_eq_concat_baseName path
  rw [hcs] at hfollow
  obtain ⟨above, _, hlast⟩ := follow_append_eq_ok_iff.mp hfollow
  have hdirectory := shapeAt_of_follow_cons hlast
  -- what is no name leads from a directory to a directory
  rw [follow_cons, hdirectory] at hlast
  simp only [follow_nil, Bool.or_eq_true, decide_eq_true_eq] at hlast
  split_ifs at hlast with hhere habove' hlong hthere
  · cases hlast
    rw [hdirectory] at hcontent
    cases hcontent
  · cases hlast
    rw [shapeAt_dropLast hdirectory] at hcontent
    cases hcontent
  · exact isName_of_mem_components (by simp [hcs]) hzero hhere habove' hlong

/-! ## Sources by their names -/

/-- The names by which the source files are found that a path stands for. -/
def walk (d : Disk) (source : String) : List Location :=
  match d.entry source with
  | .ok (.file _) => [[baseName source]]
  | .ok e => e.walk
  | .error _ => []

theorem walk_of_entry {e : Entry} (h : d.entry source = .ok e) :
    d.walk source = if e.isFile then [[baseName source]] else e.walk := by
  cases e with
  | file _ => simp [walk, h, Entry.isFile]
  | directory _ => simp [walk, h, Entry.isFile]

theorem isFile_of_entry {e : Entry} (h : d.entry source = .ok e) : d.isFile source = e.isFile := by
  cases e with
  | file _ => simp [isFile, h, Entry.isFile]
  | directory _ => simp [isFile, h, Entry.isFile]

/-- The source file that is found by names. -/
def sourceOf (d : Disk) (source : String) (names : Location) : SourceFile where
  path := if d.isFile source then source else joinAll source names
  relative := joinAll "" names

theorem relative_sourceOf (names : Location) :
    (d.sourceOf source names).relative = joinAll "" names := rfl

theorem sources_eq_map (d : Disk) (source : String) :
    d.sources source = (d.walk source).map (d.sourceOf source) := by
  unfold sources
  split
  · next content hentry =>
    simp [walk_of_entry hentry, sourceOf, isFile_of_entry hentry, Entry.isFile,
      join_empty_baseName]
  · next e hfile hentry =>
    have hdirectory : e.isFile = false := by
      cases e with
      | file content => exact (hfile content rfl).elim
      | directory es => rfl
    rw [Entry.sourcesBelow_eq_map, walk_of_entry hentry, hdirectory, if_neg Bool.false_ne_true]
    refine List.map_congr_left fun names _ => ?_
    simp [sourceOf, Entry.sourceAt, isFile_of_entry hentry, hdirectory]
  · next hentry => simp [walk, hentry]

/-- Where a path leads to like entries, it stands for the same source files. -/
theorem sources_eq_of_entry {e e' : Entry} (h : d.entry source = .ok e)
    (h' : d'.entry source = .ok e') (hfile : e'.isFile = e.isFile) (hwalk : e'.walk = e.walk) :
    d'.sources source = d.sources source := by
  have hof : d'.sourceOf source = d.sourceOf source := by
    funext names
    rw [sourceOf, sourceOf, isFile_of_entry h, isFile_of_entry h', hfile]
  rw [sources_eq_map, sources_eq_map, hof, walk_of_entry h, walk_of_entry h', hfile, hwalk]

/-- A source file is found by names. -/
structure Found (d : Disk) (source : String) (names : Location) (f : SourceFile) : Prop
    extends f.IsNamed names where
  leads : ∃ top place, d.resolve source = .ok top ∧ d.resolve f.path = .ok place ∧
    (d.fileAt place).isSome ∧ (place = top ∨ place = top ++ names ∧ buildDirectory ∉ names)

theorem ne_empty_of_resolve (h : d.resolve path = .ok l) : path ≠ "" :=
  (resolve_eq_ok_iff.mp h).2.1

/-- The walk finds source files. -/
theorem found_of_mem_walk {names : Location} (hnamed : d.root.isWellNamed = true)
    (h : names ∈ d.walk source) : d.Found source names (d.sourceOf source names) := by
  unfold walk at h
  split at h
  · next content hentry =>
    rw [List.mem_singleton] at h
    subst h
    obtain ⟨l, hl, hat⟩ := entry_eq_ok_iff.mp hentry
    have hfile : d.fileAt l = some content := by
      simp [fileAt_eq_some_iff, shapeAt, Entry.shape?, hat]
    refine ⟨⟨relative_sourceOf _, by simp, ?_, by simp⟩, l, l, hl, ?_, by rw [hfile]; rfl,
      Or.inl rfl⟩
    · simpa using isName_baseName hl (by rw [hfile]; rfl)
    · simpa [sourceOf, isFile, hentry] using hl
  · next e hfile hentry =>
    obtain ⟨top, htop, hat⟩ := entry_eq_ok_iff.mp hentry
    obtain ⟨hisName, ⟨content, hcontent⟩, above, last, rfl, hlast, habove⟩ :=
      Entry.leadsToSource_of_mem_walk (Entry.isWellNamed_at? hnamed hat) h
    have hplace : d.shapeAt (top ++ (above ++ [last])) = some (.file content) := by
      rw [shapeAt, Entry.shape?_append hat, Entry.shape?, hcontent]
      rfl
    have hisFile : d.isFile source = false := by
      cases e with
      | file content => exact (hfile content rfl).elim
      | directory es => exact isFile_of_entry hentry
    have hbuild : buildDirectory ∉ above ++ [last] := by
      rw [List.mem_append, List.mem_singleton, not_or]
      constructor
      · intro hmem
        exact absurd (habove _ hmem) (by decide)
      · rintro rfl
        exact absurd hlast (by decide)
    refine ⟨⟨relative_sourceOf _, by simp, hisName, by simpa using habove⟩, top,
      top ++ (above ++ [last]), htop, ?_, by rw [fileAt_eq_some_iff.mpr hplace]; rfl,
      Or.inr ⟨rfl, hbuild⟩⟩
    simp only [sourceOf, hisFile, Bool.false_eq_true, if_false]
    exact (resolve_joinAll (ne_empty_of_resolve htop) hisName).mpr
      ⟨top, htop, rfl, by rw [hplace]; rfl⟩
  · cases h

theorem found_of_mem_sources (hnamed : d.root.isWellNamed = true) (h : f ∈ d.sources source) :
    ∃ names, d.Found source names f := by
  rw [sources_eq_map] at h
  obtain ⟨names, hnames, rfl⟩ := List.mem_map.mp h
  exact ⟨names, found_of_mem_walk hnamed hnames⟩

theorem nodup_walk (hnamed : d.root.isWellNamed = true) : (d.walk source).Nodup := by
  unfold walk
  split
  · exact List.nodup_singleton _
  · next e _ hentry =>
    obtain ⟨top, _, hat⟩ := entry_eq_ok_iff.mp hentry
    exact Entry.nodup_walk e (Entry.isWellNamed_at? hnamed hat)
  · exact List.nodup_nil

/-- Different source files are found by different names. -/
theorem pairwise_sources (hnamed : d.root.isWellNamed = true) :
    (d.sources source).Pairwise fun f g =>
      ∃ xs ys, xs ≠ ys ∧ d.Found source xs f ∧ d.Found source ys g := by
  rw [sources_eq_map, List.pairwise_map]
  refine (nodup_walk hnamed).imp_of_mem fun {xs ys} hxs hys hne => ?_
  exact ⟨xs, ys, hne, found_of_mem_walk hnamed hxs, found_of_mem_walk hnamed hys⟩

end Disk

end CustomElement.Files
