-- SUMMARY: What making directories and writing files change on a disk.
import Mathlib.Data.List.Basic
import CustomElement.Proofs.Files.Change
import CustomElement.Proofs.Text.Utf8

/-! ## Writing

Making a directory and writing a file each change one place, and afterwards the path leads to that
place. Where the directories above are made too, only directories are made, and without ".." in the
path they are all on the way to the place that the path spells. -/

namespace CustomElement.Files

open Text (Bytes)

/-! ## What a path spells -/

/-- The names in a path: its components without those that stand for the place itself. -/
def namesOf (cs : List String) : List String := cs.filter fun c => c ≠ "" && c ≠ "."

@[simp] theorem namesOf_append (xs ys : List String) :
    namesOf (xs ++ ys) = namesOf xs ++ namesOf ys := List.filter_append ..

@[simp] theorem namesOf_replicate_empty (k : Nat) : namesOf (List.replicate k "") = [] := by
  simp [namesOf]

theorem namesOf_of_isName {name : String} (h : IsName name) : namesOf [name] = [name] := by
  simp [namesOf, h.ne_empty, h.ne_here]

theorem mem_of_mem_componentsOf {cs part : List Char} {c : Char} (hpart : part ∈ componentsOf cs)
    (hc : c ∈ part) : c ∈ cs ∧ c ≠ '/' := by
  induction cs generalizing part with
  | nil =>
    rw [componentsOf, List.mem_singleton] at hpart
    simp [hpart] at hc
  | cons first cs ih =>
    rw [componentsOf] at hpart
    split at hpart
    · rcases List.mem_cons.mp hpart with rfl | hpart
      · cases hc
      · have := ih hpart hc
        exact ⟨List.mem_cons_of_mem _ this.1, this.2⟩
    · next hfirst =>
      obtain ⟨p, ps, hps⟩ := List.exists_cons_of_ne_nil (componentsOf_ne_nil cs)
      rw [hps] at hpart ih
      dsimp only at hpart
      rcases List.mem_cons.mp hpart with rfl | hpart
      · rcases List.mem_cons.mp hc with rfl | hc
        · exact ⟨List.mem_cons_self, hfirst⟩
        · have := ih List.mem_cons_self hc
          exact ⟨List.mem_cons_of_mem _ this.1, this.2⟩
      · have := ih (List.mem_cons_of_mem _ hpart) hc
        exact ⟨List.mem_cons_of_mem _ this.1, this.2⟩

/-- The characters of a component are characters of the path, and no slashes. -/
theorem mem_of_mem_components {path part : String} {c : Char} (hpart : part ∈ components path)
    (hc : c ∈ part.toList) : c ∈ path.toList ∧ c ≠ '/' := by
  obtain ⟨cs, hcs, rfl⟩ := List.mem_map.mp hpart
  exact mem_of_mem_componentsOf hcs (by simpa using hc)

/-- What is neither empty nor stands for a place is a name, where a path has it. -/
theorem isName_of_mem_components {path name : String} (hmem : name ∈ components path)
    (hzero : '\x00' ∉ path.toList) (hhere : ¬ (name = "" ∨ name = ".")) (habove : name ≠ "..")
    (hshort : ¬ Disk.maxName < name.utf8ByteSize) : IsName name where
  ne_empty hname := hhere (Or.inl hname)
  ne_here hname := hhere (Or.inr hname)
  ne_above := habove
  noSlash hslash := (mem_of_mem_components hmem hslash).2 rfl
  noZero hnull := hzero (mem_of_mem_components hmem hnull).1
  short := Nat.not_lt.mp hshort

namespace Disk

variable {d d' : Disk} {l place : Location} {path name : String} {cs : List String}
  {content : Bytes}

/-- Without components that lead back, components lead to what they spell. -/
theorem eq_of_follow (h : d.follow place cs = .ok l) (hback : ".." ∉ cs) :
    l = place ++ namesOf cs := by
  induction cs generalizing place with
  | nil =>
    rw [follow_nil] at h
    cases h
    simp [namesOf]
  | cons name cs ih =>
    rw [List.mem_cons, not_or] at hback
    have hdirectory := shapeAt_of_follow_cons h
    rw [follow_cons, hdirectory] at h
    dsimp only at h
    split_ifs at h with hhere habove hlong hthere
    · rw [ih h hback.2]
      have : namesOf (name :: cs) = namesOf cs := by
        rw [namesOf, List.filter_cons_of_neg, namesOf]
        simpa [← not_or] using hhere
      rw [this]
    · exact absurd habove.symm hback.1
    · rw [ih h hback.2]
      have : namesOf (name :: cs) = name :: namesOf cs := by
        rw [namesOf, List.filter_cons_of_pos, namesOf]
        simpa [not_or] using hhere
      rw [this, List.append_assoc]
      rfl

/-- Where components lead after changes they led before, if they do not lead back and the place was
there. -/
theorem Keeps.follow_back (h : Keeps d d') (hback : ".." ∉ cs) (hl : d'.follow place cs = .ok l)
    (hold : (d.shapeAt l).isSome) : d.follow place cs = .ok l := by
  induction cs generalizing place with
  | nil => simpa using hl
  | cons name cs ih =>
    have hspelled := eq_of_follow hl hback
    rw [List.mem_cons, not_or] at hback
    have hdirectory := shapeAt_of_follow_cons hl
    have hplace : d.shapeAt place = some .directory := by
      by_cases hnames : namesOf (name :: cs) = []
      · rw [hspelled, hnames, List.append_nil] at hold
        obtain ⟨shape, hshape⟩ := Option.isSome_iff_exists.mp hold
        cases shape with
        | directory => exact hshape
        | file content =>
          obtain ⟨new, hnew⟩ := h.file place content (fileAt_eq_some_iff.mpr hshape)
          rw [fileAt_eq_some_iff, hdirectory] at hnew
          cases hnew
      · rw [hspelled] at hold
        exact shapeAt_above hold hnames
    rw [follow_cons, hdirectory] at hl
    rw [follow_cons, hplace]
    dsimp only at hl ⊢
    split_ifs at hl with hhere habove hlong hthere
    · rw [if_pos hhere]
      exact ih hback.2 hl
    · exact absurd habove.symm hback.1
    · have hnext : (d.shapeAt (place ++ [name])).isSome := by
        rw [eq_of_follow hl hback.2] at hold
        by_cases hnames : namesOf cs = []
        · simpa [hnames] using hold
        · rw [shapeAt_above hold hnames]
          rfl
      rw [if_neg hhere, if_neg habove, if_neg hlong, if_pos hnext]
      exact ih hback.2 hl

/-- What may change where directories are made: a directory may arise on the way to the place that a
path spells. -/
def MayMake (d : Disk) (path : String) (l : Location) (x : Shape) : Prop :=
  x = .directory ∧ (".." ∉ components path → ∃ names, names ≠ [] ∧
    names <+: namesOf (components path) ∧ l = d.startOf path ++ names)

/-! ## New places -/

/-- A path that leads nowhere but has a new place names it below a directory. -/
structure IsNewPlace (d : Disk) (path : String) (above : Location) (name : String) : Prop where
  isName : IsName name
  directory : d.shapeAt above = some .directory
  free : d.shapeAt (above ++ [name]) = none
  leads : ∃ cs, components path = cs ++ [name] ∧ d.follow (d.startOf path) cs = .ok above

theorem exists_of_newPlace (hpath : path ≠ "") (hmissing : d.resolve path = .error .notFound)
    (h : d.newPlace path = .ok l) :
    ∃ above name, l = above ++ [name] ∧ IsNewPlace d path above name := by
  obtain ⟨cs, name, hcs⟩ :=
    (components path).eq_nil_or_concat'.resolve_left (components_ne_nil path)
  simp only [newPlace, hcs, List.dropLast_concat, List.getLastD_concat] at h
  cases habove : d.follow (d.startOf path) cs with
  | error f =>
    rw [habove] at h
    cases h
  | ok above =>
    rw [habove] at h
    have hdirectory : d.shapeAt above = some .directory ∧ l = above ++ [name] := by
      simp only [Except.bind] at h
      split at h
      · next es hes =>
        cases h
        exact ⟨by simp [shapeAt, Entry.shape?, hes], rfl⟩
      · cases h
      · cases h
    obtain ⟨hdirectory, rfl⟩ := hdirectory
    have hzero : '\x00' ∉ path.toList := by
      intro hzero
      simp [Disk.resolve, hzero] at hmissing
    -- why the last component leads nowhere tells that it is a name
    have hlast : d.follow above [name] = .error .notFound := by
      have hwhole : d.follow (d.startOf path) (cs ++ [name]) = .error .notFound := by
        rw [Disk.resolve, hcs] at hmissing
        simpa [hzero, hpath] using hmissing
      rw [follow_append, habove] at hwhole
      exact hwhole
    rw [follow_cons, hdirectory] at hlast
    simp only [follow_nil, Bool.or_eq_true, decide_eq_true_eq] at hlast
    split_ifs at hlast with hhere habove' hlong hthere
    · cases hlast
    have hname := isName_of_mem_components (by simp [hcs]) hzero hhere habove' hlong
    exact ⟨above, name, rfl, hname, hdirectory, by simpa using hthere, cs, hcs, habove⟩

namespace IsNewPlace

variable {above : Location} {x : Shape}

theorem puts (h : IsNewPlace d path above name) (x : Shape) :
    Puts d (above ++ [name]) x (d.put (above ++ [name]) x.entry) where
  eq := rfl
  inside := ⟨above, name, rfl, h.directory⟩
  free := Or.inl h.free

/-- When something has been put there, the path leads to it. -/
theorem resolve_put (h : IsNewPlace d path above name) (hpath : path ≠ "")
    (hzero : '\x00' ∉ path.toList) (x : Shape) :
    (d.put (above ++ [name]) x.entry).resolve path = .ok (above ++ [name]) := by
  have hputs := h.puts x
  obtain ⟨cs, hcs, habove⟩ := h.leads
  have hstart : (d.put (above ++ [name]) x.entry).startOf path = d.startOf path := rfl
  rw [resolve_eq_ok_iff, hstart, hcs, follow_append, hputs.keeps.follow habove]
  have hdirectory := hputs.keeps.directory above h.directory
  refine ⟨hzero, hpath, (follow_names_iff ?_ ?_).mpr ⟨rfl, ?_⟩⟩
  · rw [hdirectory]
    rfl
  · simpa using h.isName
  · rw [hputs.shapeAt_eq, if_pos rfl]
    rfl

/-- Making a directory there is what making directories may do. -/
theorem mayMake (h : IsNewPlace d path above name) :
    MayMake d path (above ++ [name]) .directory := by
  refine ⟨rfl, fun hback => ?_⟩
  obtain ⟨cs, hcs, habove⟩ := h.leads
  rw [hcs, List.mem_append, not_or] at hback
  have hnames : namesOf (components path) = namesOf cs ++ [name] := by
    rw [hcs, namesOf_append, namesOf_of_isName h.isName]
  refine ⟨namesOf cs ++ [name], by simp, hnames ▸ List.prefix_rfl, ?_⟩
  rw [eq_of_follow habove hback.1, List.append_assoc]

end IsNewPlace

theorem noZero_of_resolve (h : d.resolve path ≠ .error .zeroInPath) : '\x00' ∉ path.toList := by
  intro hzero
  exact h (by simp [Disk.resolve, hzero])

/-! ## One directory -/

/-- Making a directory puts one where nothing was. -/
theorem puts_of_makeDirectory (hpath : path ≠ "") (h : d.makeDirectory path = .ok d') :
    ∃ l, MayMake d path l .directory ∧ Puts d l .directory d' := by
  unfold makeDirectory at h
  split at h
  · cases h
  · next hmissing =>
    cases hplace : d.newPlace path with
    | error f =>
      rw [hplace] at h
      cases h
    | ok l =>
      rw [hplace] at h
      cases h
      obtain ⟨above, name, rfl, hnew⟩ := exists_of_newPlace hpath hmissing hplace
      exact ⟨_, hnew.mayMake, hnew.puts .directory⟩
  · cases h

/-- A directory that is there is not made again. -/
theorem ensureDirectory_of_isDirectory (h : d.isDirectory path = true) :
    d.ensureDirectory path = (d, none) := by
  obtain ⟨l, hl, _⟩ := isDirectory_iff.mp h
  simp [ensureDirectory, makeDirectory, hl, h]

theorem grows_ensureDirectory (hpath : path ≠ "") :
    Grows (MayMake d path) d (d.ensureDirectory path).1 := by
  unfold ensureDirectory
  cases hmake : d.makeDirectory path with
  | ok made =>
    obtain ⟨l, hmay, hputs⟩ := puts_of_makeDirectory hpath hmake
    exact Grows.single hmay hputs
  | error f =>
    dsimp only
    split_ifs
    · exact Grows.refl d
    · exact Grows.refl d

/-! ## Several directories -/

/-- A path that is spelled by part of another one may make nothing else. -/
theorem mayMake_of_prefix {q : String} (hstart : d'.here = d.here)
    (habsolute : isAbsolute q = isAbsolute path)
    (hnames : namesOf (components q) <+: namesOf (components path))
    (hback : ".." ∈ components q → ".." ∈ components path) {x : Shape}
    (h : MayMake d' q l x) : MayMake d path l x := by
  refine ⟨h.1, fun hpath => ?_⟩
  obtain ⟨names, hne, hprefix, rfl⟩ := h.2 (mt hback hpath)
  exact ⟨names, hne, hprefix.trans hnames, by rw [startOf, startOf, hstart, habsolute]⟩

/-- The directory that holds what a path leads to is spelled by part of the path. -/
theorem prefix_splitPath (hne : (splitPath path).1 ≠ "") :
    isAbsolute (splitPath path).1 = isAbsolute path ∧
      namesOf (components (splitPath path).1) <+: namesOf (components path) ∧
      (".." ∈ components (splitPath path).1 → ".." ∈ components path) := by
  refine splitPath_of_parent (P := fun q => isAbsolute q = isAbsolute path ∧
    namesOf (components q) <+: namesOf (components path) ∧
      (".." ∈ components q → ".." ∈ components path)) ⟨rfl, List.prefix_rfl, id⟩ ?_ hne
  rintro q ⟨habsolute, hnames, hback⟩ hparent
  have hleads := leadsOn_parent hparent
  refine ⟨by rw [← hleads.isAbsolute_eq, habsolute], ?_, fun h => hback ?_⟩
  · obtain ⟨cs, k, m, hp, hq⟩ := hleads.exists_components
    refine List.IsPrefix.trans ?_ hnames
    simp [hp, hq]
  · exact (hleads.mem_components (by decide)).mpr (Or.inl h)

/-- Making directories makes nothing else, whatever becomes of it. -/
theorem grows_makeDirectoriesFuel (fuel : Nat) (hpath : path ≠ "") :
    Grows (MayMake d path) d (makeDirectoriesFuel fuel d path).1 := by
  induction fuel generalizing d path with
  | zero => exact grows_ensureDirectory hpath
  | succ fuel ih =>
    have hensure (e : Disk) (he : e.here = d.here) :
        Grows (MayMake d path) e (e.ensureDirectory path).1 :=
      (grows_ensureDirectory hpath).mono fun l x =>
        mayMake_of_prefix he rfl List.prefix_rfl id
    simp only [makeDirectoriesFuel]
    split
    · exact hensure d rfl
    · next hlast =>
      simp only [Bool.or_eq_true, decide_eq_true_eq, not_or] at hlast
      obtain ⟨⟨hhead, _⟩, _⟩ := hlast
      obtain ⟨habsolute, hnames, hback⟩ := prefix_splitPath hhead
      have habove : Grows (MayMake d path) d (makeDirectoriesFuel fuel d (splitPath path).1).1 :=
        (ih hhead).mono fun l x => mayMake_of_prefix rfl habsolute hnames hback
      split
      · next made hmade =>
        rw [hmade] at habove
        split
        · exact habove
        · exact habove.trans (hensure made habove.keeps.here)
      · next made q hmade =>
        rw [hmade] at habove
        split
        · exact habove
        · exact habove.trans (hensure made habove.keeps.here)
      · exact habove

theorem grows_makeDirectories (hpath : path ≠ "") :
    Grows (MayMake d path) d (d.makeDirectories path).1 :=
  grows_makeDirectoriesFuel path.length hpath

/-- Nothing is made above a directory that is there. -/
theorem makeDirectories_of_isDirectory (h : d.isDirectory path = true) :
    d.makeDirectories path = (d, none) := by
  obtain ⟨l, hl, _⟩ := isDirectory_iff.mp h
  have hhead : (splitPath path).1 ≠ "" → d.pathExists (splitPath path).1 = true := by
    intro hne
    refine splitPath_of_parent (P := fun q => d.pathExists q = true) (pathExists_iff.mpr ⟨l, hl⟩)
      ?_ hne
    intro q hq hparent
    obtain ⟨place, hplace⟩ := pathExists_iff.mp hq
    have hleads := leadsOn_parent hparent
    have hzero : '\x00' ∉ (baseName q).toList := by
      intro hnull
      exact (resolve_eq_ok_iff.mp hplace).1 ((hleads.mem_toList_iff (by decide)).mpr (Or.inr hnull))
    obtain ⟨above, habove, _⟩ := (resolve_of_leadsOn hleads hzero).mp hplace
    exact pathExists_iff.mpr ⟨above, habove⟩
  unfold makeDirectories
  cases path.length with
  | zero => exact ensureDirectory_of_isDirectory h
  | succ fuel =>
    simp only [makeDirectoriesFuel]
    rw [if_pos, ensureDirectory_of_isDirectory h]
    by_cases hne : (splitPath path).1 = ""
    · simp [hne]
    · simp [hhead hne]

/-! ## A file -/

/-- A file that has the content already is written without any change. -/
theorem writeFile_of_fileAt (h : d.resolve path = .ok l) (hfile : d.fileAt l = some content) :
    d.writeFile path content = .ok d := by
  rw [fileAt_eq_some_iff, shapeAt, Entry.shape?, Option.map_eq_some_iff] at hfile
  obtain ⟨e, he, hshape⟩ := hfile
  obtain rfl := Entry.shape_eq_file_iff.mp hshape
  have hput : d.put l (.file content) = d := by rw [put, Entry.put_self he]
  simp only [writeFile, h, he, hput]

/-- A file is written over an old one. -/
theorem puts_of_fileAt {old : Bytes} (h : d.resolve path = .ok l) (hold : d.fileAt l = some old) :
    Puts d l (.file content) (d.put l (.file content)) := by
  rw [fileAt_eq_some_iff] at hold
  refine ⟨rfl, ?_, Or.inr ⟨old, content, hold, rfl⟩⟩
  rcases l.eq_nil_or_concat' with rfl | ⟨above, name, rfl⟩
  · rw [shapeAt_nil_of_resolve h] at hold
    cases hold
  · exact ⟨above, name, rfl, shapeAt_above (by rw [hold]; rfl) (by simp)⟩

/-- Writing a file puts it at one place, and the path leads to it. -/
theorem puts_of_writeFile (hpath : path ≠ "") (h : d.writeFile path content = .ok d') :
    ∃ l, Puts d l (.file content) d' ∧ d'.resolve path = .ok l := by
  unfold writeFile at h
  split at h
  · next l hl =>
    have hsome := isSome_shapeAt_of_resolve hl
    split at h
    · cases h
    · next hfree =>
      cases h
      obtain ⟨old, hold⟩ : ∃ old, d.fileAt l = some old := by
        simp only [fileAt_eq_some_iff]
        rw [shapeAt, Entry.shape?] at hsome ⊢
        cases he : d.root.at? l with
        | none => simp [he] at hsome
        | some e =>
          cases e with
          | file old => exact ⟨old, rfl⟩
          | directory es => exact absurd he (hfree es)
      have hputs : Puts d l (.file content) (d.put l (.file content)) := puts_of_fileAt hl hold
      exact ⟨l, hputs, hputs.keeps.resolve hl⟩
  · next hmissing =>
    cases hplace : d.newPlace path with
    | error f =>
      rw [hplace] at h
      cases h
    | ok l =>
      rw [hplace] at h
      cases h
      obtain ⟨above, name, rfl, hnew⟩ := exists_of_newPlace hpath hmissing hplace
      have hzero : '\x00' ∉ path.toList := noZero_of_resolve (d := d) (by rw [hmissing]; simp)
      exact ⟨_, hnew.puts (.file content), hnew.resolve_put hpath hzero (.file content)⟩
  · cases h

/-! ## A text -/

/-- A text without carriage returns that was written is read back. -/
theorem readText_of_writeText {text : String} (hpath : path ≠ "") (hreturn : '\r' ∉ text.toList)
    (h : d.writeText path text = .ok d') :
    d'.pathExists path = true ∧ d'.readText path = .ok text := by
  obtain ⟨l, hputs, hleads⟩ := puts_of_writeFile hpath h
  have hfile : d'.fileAt l = some (Text.encodeUtf8 text.toList) := by
    rw [hputs.fileAt_of_file, if_pos rfl]
  have hread : d'.readFile path = .ok (Text.encodeUtf8 text.toList) :=
    readFile_eq_ok_iff.mpr ⟨l, hleads, hfile⟩
  refine ⟨pathExists_iff.mpr ⟨l, hleads⟩, ?_⟩
  rw [readText, hread]
  simp only [textOfBytes, Text.decodeUtf8_encodeUtf8, Except.map, Except.mapError,
    Text.unifyLineEnds_of_notMem hreturn, String.ofList_toList]

end Disk

end CustomElement.Files
