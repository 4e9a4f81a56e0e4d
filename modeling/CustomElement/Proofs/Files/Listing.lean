-- SUMMARY: A search lists exactly the source files below a directory, in one order, however directories list their entries.
import Mathlib.Data.List.Forall2
import CustomElement.Proofs.Files.Search

/-! ## Listing source files

Below a directory every source file is listed that is in no hidden directory and in none that builds
write into, once, and nothing else. Since the list is in an order that no two files are alike in, it
is told by what is on the disk: how the system lists the entries of a directory does not matter. -/

namespace CustomElement.Files

/-! ## Names of source files -/

theorem isSourceName_iff {name : String} : isSourceName name = true ↔
    ∃ stem, ∃ ending ∈ [".js", ".jsx", ".ts", ".tsx"], name = stem ++ ending := by
  rw [isSourceName, List.any_eq_true]
  constructor
  · rintro ⟨ending, hending, hsuffix⟩
    obtain ⟨stem, hstem⟩ := List.isSuffixOf_iff_suffix.mp hsuffix
    refine ⟨String.ofList stem, ending, hending, ?_⟩
    rw [← String.toList_inj, String.toList_append, String.toList_ofList, hstem]
  · rintro ⟨stem, ending, hending, rfl⟩
    refine ⟨ending, hending, List.isSuffixOf_iff_suffix.mpr ?_⟩
    rw [String.toList_append]
    exact List.suffix_append _ _

theorem isSkipped_eq_false_iff {name : String} : isSkipped name = false ↔
    name ≠ "__fluxel_build__" ∧ name.toList.head? ≠ some '.' := by
  rw [isSkipped, Bool.or_eq_false_iff, beq_eq_false_iff_ne, beq_eq_false_iff_ne]
  rfl

namespace Entry

variable {e f : Entry} {es fs : List (String × Entry)} {name : String} {names : Location}

/-! ## What the walk comes to -/

/-- The walk comes to every source file. -/
theorem mem_walk_of_leadsToSource (h : e.LeadsToSource names) : names ∈ e.walk := by
  obtain ⟨-, ⟨content, hfile⟩, above, last, rfl, hlast, habove⟩ := h
  induction above generalizing e with
  | nil =>
    cases e with
    | file _ => cases hfile
    | directory es =>
      rw [List.nil_append, at?_directory_cons, Option.bind_eq_some_iff] at hfile
      obtain ⟨child, hchild, hfile⟩ := hfile
      obtain rfl : child = file content := by simpa using hfile
      refine mem_walk.mpr (.inl ⟨(last, file content), mem_of_named? hchild, ?_, rfl⟩)
      simp [isSourceEntry, isFile, hlast]
  | cons name above ih =>
    cases e with
    | file _ => cases hfile
    | directory es =>
      rw [List.cons_append, at?_directory_cons, Option.bind_eq_some_iff] at hfile
      obtain ⟨child, hchild, hfile⟩ := hfile
      rw [List.forall_mem_cons] at habove
      exact mem_walk.mpr (.inr ⟨name, child, above ++ [last], mem_of_named? hchild, habove.1,
        ih hfile habove.2, rfl⟩)

theorem mem_walk_iff (h : e.isWellNamed = true) : names ∈ e.walk ↔ e.LeadsToSource names :=
  ⟨leadsToSource_of_mem_walk h, mem_walk_of_leadsToSource⟩

/-- What leads anywhere is made of names. -/
theorem isName_of_at? (h : e.isWellNamed = true) (hnames : ∃ x, e.at? names = some x) :
    ∀ n ∈ names, IsName n := by
  obtain ⟨x, hx⟩ := hnames
  induction names generalizing e with
  | nil => simp
  | cons name names ih =>
    cases e with
    | file _ => cases hx
    | directory es =>
      rw [at?_directory_cons, Option.bind_eq_some_iff] at hx
      obtain ⟨child, hchild, hx⟩ := hx
      have hes : areWellNamed es = true := by simpa only [isWellNamed] using h
      have hmem := mem_of_named? hchild
      exact List.forall_mem_cons.mpr
        ⟨isName_of_mem hes hmem, ih (isWellNamed_of_mem hes hmem) hx⟩

/-! ## Other lists of the same entries -/

/-- A file that names lead to is told by its shape. -/
theorem exists_at?_iff : (∃ content, e.at? names = some (file content)) ↔
    ∃ content, e.shape? names = some (.file content) := by
  refine exists_congr fun content => ?_
  rw [shape?, Option.map_eq_some_iff]
  constructor
  · intro h
    exact ⟨_, h, rfl⟩
  · rintro ⟨x, hx, hshape⟩
    rw [hx, shape_eq_file_iff.mp hshape]

/-- The walk depends on what is where, and on nothing else. -/
theorem walk_congr (he : e.isWellNamed = true) (hf : f.isWellNamed = true)
    (h : ∀ l, f.shape? l = e.shape? l) : f.walk = e.walk := by
  have hmem (names : Location) : names ∈ f.walk ↔ names ∈ e.walk := by
    have hfile : (∃ content, f.at? names = some (file content)) ↔
        ∃ content, e.at? names = some (file content) := by
      rw [exists_at?_iff, exists_at?_iff, h]
    rw [mem_walk_iff hf, mem_walk_iff he]
    exact ⟨fun ⟨h₁, h₂, h₃⟩ => ⟨h₁, hfile.mp h₂, h₃⟩, fun ⟨h₁, h₂, h₃⟩ => ⟨h₁, hfile.mpr h₂, h₃⟩⟩
  have hperm : f.walk.Perm e.walk :=
    (List.perm_ext_iff_of_nodup (nodup_walk f hf) (nodup_walk e he)).mpr hmem
  exact hperm.eq_of_pairwise (fun _ _ _ _ hab hba => absurd hba hab.asymm) (pairwise_walk f hf)
    (pairwise_walk e he)

theorem areWellNamed_iff : areWellNamed es = true ↔
    (∀ x ∈ es, IsName x.1 ∧ x.2.isWellNamed = true) ∧ es.Pairwise fun a b => a.1 ≠ b.1 := by
  constructor
  · intro h
    exact ⟨fun x hx => ⟨isName_of_mem h hx, isWellNamed_of_mem h hx⟩, pairwise_ne h⟩
  · rintro ⟨hall, hpairs⟩
    induction es with
    | nil => rfl
    | cons x es ih =>
      rw [List.forall_mem_cons] at hall
      rw [List.pairwise_cons] at hpairs
      exact areWellNamed_cons.mpr ⟨hall.1.1, fun other ho => (hpairs.1 other ho).symm, hall.1.2,
        ih hall.2 hpairs.2⟩

theorem areWellNamed_perm (h : es.Perm fs) (hes : areWellNamed es = true) :
    areWellNamed fs = true := by
  obtain ⟨hall, hpairs⟩ := areWellNamed_iff.mp hes
  exact areWellNamed_iff.mpr
    ⟨fun x hx => hall x (h.mem_iff.mpr hx), h.pairwise hpairs fun hab => Ne.symm hab⟩

theorem named?_eq_some_iff (h : areWellNamed es = true) :
    named? es name = some e ↔ (name, e) ∈ es :=
  ⟨mem_of_named?, named?_of_mem h⟩

theorem named?_perm (h : es.Perm fs) (hes : areWellNamed es = true) :
    named? fs name = named? es name := by
  ext x
  rw [named?_eq_some_iff (areWellNamed_perm h hes), named?_eq_some_iff hes, h.mem_iff]

/-- The same files and directories, with the entries of any directory listed in any order. -/
inductive Relists : Entry → Entry → Prop
  | refl (e : Entry) : Relists e e
  | reorder {es fs : List (String × Entry)} : es.Perm fs → Relists (directory es) (directory fs)
  | within {name : String} {e f : Entry} (before after : List (String × Entry)) : Relists e f →
    Relists (directory (before ++ (name, e) :: after)) (directory (before ++ (name, f) :: after))
  | trans {e f g : Entry} : Relists e f → Relists f g → Relists e g

namespace Relists

theorem isWellNamed (h : Relists e f) (he : e.isWellNamed = true) : f.isWellNamed = true := by
  induction h with
  | refl => exact he
  | reorder hperm =>
    simp only [Entry.isWellNamed] at he ⊢
    exact areWellNamed_perm hperm he
  | within before after _ ih =>
    simp only [Entry.isWellNamed, areWellNamed_iff, List.forall_mem_append, List.forall_mem_cons,
      List.pairwise_append, List.pairwise_cons] at he ⊢
    obtain ⟨⟨hbefore, ⟨hname, hentry⟩, hafter⟩, hpairs⟩ := he
    exact ⟨⟨hbefore, ⟨hname, ih hentry⟩, hafter⟩, hpairs⟩
  | trans _ _ ih₁ ih₂ => exact ih₂ (ih₁ he)

/-- The order of entries does not change what is where. -/
theorem shape?_eq (h : Relists e f) (he : e.isWellNamed = true) (l : Location) :
    f.shape? l = e.shape? l := by
  induction h generalizing l with
  | refl => rfl
  | @reorder es fs hperm =>
    have hes : areWellNamed es = true := by simpa only [Entry.isWellNamed] using he
    cases l with
    | nil => rfl
    | cons name l => simp only [shape?, at?_directory_cons, named?_perm hperm hes]
  | @within name e f before after _ ih =>
    have hentry : e.isWellNamed = true := by
      have hmem : (name, e) ∈ before ++ (name, e) :: after := by simp
      simp only [Entry.isWellNamed] at he
      exact isWellNamed_of_mem he hmem
    cases l with
    | nil => rfl
    | cons first l =>
      have hbelow := ih hentry l
      simp only [shape?] at hbelow ⊢
      simp only [at?_directory_cons, named?, List.find?_append, List.find?_cons]
      cases before.find? fun e => e.1 == first with
      | some x => rfl
      | none =>
        cases name == first with
        | true => simpa using hbelow
        | false => rfl
  | trans h₁ _ ih₁ ih₂ => rw [ih₂ (h₁.isWellNamed he), ih₁ he]

end Relists

end Entry

namespace Disk

variable {d d' : Disk} {source path : String} {top place names : Location} {l : Location}

/-! ## Disks with the same at each place -/

section Same

variable (hhere : d'.here = d.here) (hshape : ∀ l, d'.shapeAt l = d.shapeAt l)
include hshape

theorem follow_congr : d'.follow place names = d.follow place names := by
  induction names generalizing place with
  | nil => rw [follow_nil, follow_nil]
  | cons name names ih => simp only [follow_cons, hshape, ih]

include hhere

theorem resolve_congr : d'.resolve path = d.resolve path := by
  have hstart : d'.startOf path = d.startOf path := by rw [startOf, startOf, hhere]
  rw [resolve, resolve, hstart, follow_congr hshape]

/-- The source files depend on what is where, and on nothing else. -/
theorem sources_congr (hnamed : d.root.isWellNamed = true) (hnamed' : d'.root.isWellNamed = true) :
    d'.sources source = d.sources source := by
  have hresolve : d'.resolve source = d.resolve source := resolve_congr hhere hshape
  cases hl : d.resolve source with
  | error fault =>
    have hentry : d.entry source = .error fault := by rw [entry, hl]; rfl
    have hentry' : d'.entry source = .error fault := by rw [entry, hresolve, hl]; rfl
    rw [sources, sources, hentry, hentry']
  | ok l =>
    obtain ⟨e, he, hentry⟩ := entry_of_resolve hl
    obtain ⟨e', he', hentry'⟩ := entry_of_resolve (hresolve.trans hl)
    have hbelow (m : Location) : e'.shape? m = e.shape? m := by
      have := hshape (l ++ m)
      rwa [shapeAt, shapeAt, Entry.shape?_append he, Entry.shape?_append he'] at this
    have hfile : e'.isFile = e.isFile := by
      have := hbelow []
      cases e <;> cases e' <;> simp_all [Entry.shape?, Entry.isFile]
    have hwalk := Entry.walk_congr (Entry.isWellNamed_at? hnamed he)
      (Entry.isWellNamed_at? hnamed' he') hbelow
    exact sources_eq_of_entry hentry hentry' hfile hwalk

end Same

/-! ## What is listed -/

/-- Names lead from a place to a source file, through no directory that is hidden or that builds
write into. -/
structure HasSource (d : Disk) (top names : Location) : Prop where
  file : (d.fileAt (top ++ names)).isSome
  ending : ∃ above stem, ∃ ending ∈ [".js", ".jsx", ".ts", ".tsx"],
    names = above ++ [stem ++ ending]
  reached : ∀ n ∈ names.dropLast, n ≠ "__fluxel_build__" ∧ n.toList.head? ≠ some '.'

theorem hasSource_iff {e : Entry} (he : d.root.at? top = some e) (hnamed : e.isWellNamed = true) :
    d.HasSource top names ↔ names ∈ e.walk := by
  have hfile : (d.fileAt (top ++ names)).isSome ↔
      ∃ content, e.at? names = some (.file content) := by
    rw [Option.isSome_iff_exists, Entry.exists_at?_iff]
    refine exists_congr fun content => ?_
    rw [fileAt_eq_some_iff, shapeAt, Entry.shape?_append he]
  constructor
  · rintro ⟨hsome, ⟨above, stem, ending, hending, rfl⟩, hreached⟩
    rw [List.dropLast_concat] at hreached
    refine Entry.mem_walk_of_leadsToSource ⟨?_, hfile.mp hsome, above, _, rfl,
      isSourceName_iff.mpr ⟨stem, ending, hending, rfl⟩, fun n hn =>
        isSkipped_eq_false_iff.mpr (hreached n hn)⟩
    obtain ⟨content, hcontent⟩ := hfile.mp hsome
    exact Entry.isName_of_at? hnamed ⟨_, hcontent⟩
  · intro hwalk
    obtain ⟨_, hsome, above, last, rfl, hlast, habove⟩ :=
      Entry.leadsToSource_of_mem_walk hnamed hwalk
    obtain ⟨stem, ending, hending, rfl⟩ := isSourceName_iff.mp hlast
    refine ⟨hfile.mpr hsome, ⟨above, stem, ending, hending, rfl⟩, ?_⟩
    rw [List.dropLast_concat]
    exact fun n hn => isSkipped_eq_false_iff.mp (habove n hn)

/-- A source file that is listed leads where names lead from a place: they are the components of its
relative path, and that path below what was searched is its path. -/
structure LeadsBy (d : Disk) (source : String) (top names : Location) (f : SourceFile) : Prop where
  components : components f.relative = names
  below : ".." ∉ Files.components f.relative
  path : join source f.relative = f.path
  place : d.resolve f.path = .ok (top ++ names)

/-- A list of the source files below a place: each of them stands in it, once and in order, and
nothing else does. -/
structure Lists (d : Disk) (source : String) (top : Location) (fs : List SourceFile) : Prop where
  walked : ∃ walk : List Location, (∀ names, names ∈ walk ↔ d.HasSource top names) ∧ walk.Nodup ∧
    walk.Pairwise Entry.Precedes ∧ List.Forall₂ (d.LeadsBy source top) walk fs
  paths : (fs.map SourceFile.path).Nodup

/-- Every source file that the walk comes to is listed with the names that lead to it. -/
theorem leadsBy_sourceOf {e : Entry} (hnamed : e.isWellNamed = true)
    (htop : d.resolve source = .ok top) (he : d.root.at? top = some e) (hwalk : names ∈ e.walk) :
    d.LeadsBy source top names (d.sourceOf source names) := by
  obtain ⟨hnames, ⟨content, hcontent⟩, _⟩ := Entry.leadsToSource_of_mem_walk hnamed hwalk
  have hne := Entry.ne_nil_of_mem_walk hwalk
  have hdirectory : e.isFile = false := by
    cases e with
    | file _ => simp [Entry.walk] at hwalk
    | directory _ => rfl
  have hentry : d.entry source = .ok e := entry_eq_ok_iff.mpr ⟨top, htop, he⟩
  have hpath : (d.sourceOf source names).path = joinAll source names := by
    simp [sourceOf, isFile_of_entry hentry, hdirectory]
  have hcomponents := components_joinAll hne hnames
  refine ⟨hcomponents, ?_, ?_, ?_⟩
  · rw [relative_sourceOf, hcomponents]
    exact fun habove => (hnames _ habove).ne_above rfl
  · rw [hpath, relative_sourceOf, join_joinAll hne hnames]
  · have hplace : d.shapeAt (top ++ names) = some (.file content) := by
      rw [shapeAt, Entry.shape?_append he, Entry.shape?, hcontent]
      rfl
    rw [hpath]
    exact (resolve_joinAll (ne_empty_of_resolve htop) hnames).mpr
      ⟨top, htop, rfl, by rw [hplace]; rfl⟩

theorem lists_sources (hnamed : d.root.isWellNamed = true) (htop : d.resolve source = .ok top)
    (hdirectory : d.shapeAt top = some .directory) : d.Lists source top (d.sources source) := by
  obtain ⟨e, he, hentry⟩ := entry_of_resolve htop
  have hwell := Entry.isWellNamed_at? hnamed he
  have hfile : e.isFile = false := by
    cases e with
    | file _ => simp [shapeAt, Entry.shape?, he] at hdirectory
    | directory _ => rfl
  have hwalk : d.walk source = e.walk := by
    rw [walk_of_entry hentry, hfile, if_neg Bool.false_ne_true]
  have hleads (names : Location) (h : names ∈ e.walk) := leadsBy_sourceOf hwell htop he h
  have hnodup := Entry.nodup_walk e hwell
  rw [sources_eq_map, hwalk]
  refine ⟨⟨e.walk, fun names => (hasSource_iff he hwell).symm, hnodup,
    Entry.pairwise_walk e hwell, ?_⟩, ?_⟩
  · rw [List.forall₂_map_right_iff, List.forall₂_same]
    exact hleads
  · rw [List.map_map]
    refine hnodup.map_on fun xs hxs ys hys hpath => ?_
    -- one path leads to one place
    have hplace := (hleads xs hxs).place
    rw [show (d.sourceOf source xs).path = (d.sourceOf source ys).path from hpath,
      (hleads ys hys).place] at hplace
    exact (List.append_cancel_left (Except.ok.inj hplace)).symm

/-- Below a directory exactly the source files are listed, and they are listed alike in whatever
order the entries of the directories are. -/
theorem sources_directory (hnamed : d.root.isWellNamed = true) (htop : d.resolve source = .ok top)
    (hdirectory : d.shapeAt top = some .directory) :
    d.Lists source top (d.sources source) ∧
      ∀ d' : Disk, d'.here = d.here → d.root.Relists d'.root →
        d'.sources source = d.sources source := by
  refine ⟨lists_sources hnamed htop hdirectory, fun d' hhere hroot => ?_⟩
  exact sources_congr hhere (hroot.shape?_eq hnamed) hnamed (hroot.isWellNamed hnamed)

/-! ### A directory in two orders -/

/-- The entries of a directory with hidden files, other files and directories of every kind. -/
def mixedEntries : List (String × Entry) :=
  [("b.js", .file []), ("sub", .directory [("z.ts", .file []), ("a.tsx", .file [])]),
    (".git", .directory [("x.js", .file [])]), ("notes.md", .file []), (".a.js", .file []),
    ("__fluxel_build__", .directory [("b.js", .file [])])]

/-- A disk with the directory. -/
def mixedDisk : Disk := ⟨.directory [("src", .directory mixedEntries)], []⟩

/-- The same disk with the entries of the directory in the opposite order. -/
def turnedDisk : Disk := ⟨.directory [("src", .directory mixedEntries.reverse)], []⟩

theorem sources_directory_mixed :
    mixedDisk.root.isWellNamed = true ∧ mixedDisk.resolve "src/" = .ok ["src"] ∧
      mixedDisk.shapeAt ["src"] = some .directory ∧
      mixedDisk.Lists "src/" ["src"] (mixedDisk.sources "src/") ∧
      turnedDisk.sources "src/" = mixedDisk.sources "src/" := by
  have hnamed : mixedDisk.root.isWellNamed = true := by decide +kernel
  have htop : mixedDisk.resolve "src/" = .ok ["src"] := by decide +kernel
  have hdirectory : mixedDisk.shapeAt ["src"] = some .directory := by decide +kernel
  have hturned : mixedDisk.root.Relists turnedDisk.root :=
    .within [] [] (.reorder (List.reverse_perm mixedEntries).symm)
  obtain ⟨hlists, hsame⟩ := sources_directory hnamed htop hdirectory
  exact ⟨hnamed, htop, hdirectory, hlists, hsame turnedDisk rfl hturned⟩

end Disk

end CustomElement.Files
