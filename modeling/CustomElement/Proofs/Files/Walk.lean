-- SUMMARY: The walk through the directories below a path: by which names it comes to each source file.
import Mathlib.Data.List.Nodup
import CustomElement.Files.Sources
import CustomElement.Proofs.Files.Place

/-! ## Walks

A source file is found by the names that lead to it from where the search began. Its path and its
relative path are these names joined to what was searched and to nothing, so that both are known
when the names are. On a disk where the entries of a directory have names of their own, no names are
come by twice. -/

namespace CustomElement.Files

open Text (Bytes)

/-! ## Names of their own -/

namespace Entry

mutual

/-- Does every entry at and below an entry have a name of its own in its directory? -/
def isWellNamed : Entry → Bool
  | file _ => true
  | directory es => areWellNamed es

/-- Do entries have names of their own, and the entries below them too? -/
def areWellNamed : List (String × Entry) → Bool
  | [] => true
  | (name, e) :: rest =>
    decide (IsName name) && !(rest.any fun other => other.1 == name) && isWellNamed e &&
      areWellNamed rest

end

theorem areWellNamed_cons {name : String} {e : Entry} {es : List (String × Entry)} :
    areWellNamed ((name, e) :: es) = true ↔
      IsName name ∧ (∀ other ∈ es, other.1 ≠ name) ∧ e.isWellNamed = true ∧
        areWellNamed es = true := by
  simp [areWellNamed, and_assoc]

variable {es : List (String × Entry)} {name : String} {e : Entry}

theorem isName_of_mem (h : areWellNamed es = true) (he : (name, e) ∈ es) : IsName name := by
  induction es with
  | nil => cases he
  | cons first es ih =>
    obtain ⟨hname, _, _, hrest⟩ := areWellNamed_cons.mp h
    rcases List.mem_cons.mp he with rfl | he
    · exact hname
    · exact ih hrest he

theorem isWellNamed_of_mem (h : areWellNamed es = true) (he : (name, e) ∈ es) :
    e.isWellNamed = true := by
  induction es with
  | nil => cases he
  | cons first es ih =>
    obtain ⟨_, _, hentry, hrest⟩ := areWellNamed_cons.mp h
    rcases List.mem_cons.mp he with rfl | he
    · exact hentry
    · exact ih hrest he

theorem pairwise_ne (h : areWellNamed es = true) : es.Pairwise fun a b => a.1 ≠ b.1 := by
  induction es with
  | nil => exact List.Pairwise.nil
  | cons first es ih =>
    obtain ⟨_, hother, _, hrest⟩ := areWellNamed_cons.mp h
    exact List.Pairwise.cons (fun other ho => (hother other ho).symm) (ih hrest)

/-- An entry is found by its name. -/
theorem named?_of_mem (h : areWellNamed es = true) (he : (name, e) ∈ es) :
    named? es name = some e := by
  induction es with
  | nil => cases he
  | cons first es ih =>
    obtain ⟨_, hother, _, hrest⟩ := areWellNamed_cons.mp h
    rcases List.mem_cons.mp he with rfl | he
    · simp [named?]
    · have hne : first.1 ≠ name := (hother _ he).symm
      simpa [named?, hne] using ih hrest he

end Entry

/-! ## Sorting -/

section Sorting

variable {α β : Type} {xs : List (String × α)}

theorem perm_sortByName (xs : List (String × α)) : (sortByName xs).Perm xs :=
  List.mergeSort_perm xs _

@[simp] theorem mem_sortByName {x : String × α} : x ∈ sortByName xs ↔ x ∈ xs :=
  (perm_sortByName xs).mem_iff

/-- Only names count for the order. -/
theorem sortByName_map (f : String × α → β) :
    sortByName (xs.map fun x => (x.1, f x)) = (sortByName xs).map fun x => (x.1, f x) := by
  rw [sortByName, sortByName, List.map_mergeSort]
  intro _ _ _ _
  rfl

/-- Different names are put in order. -/
theorem pairwise_sortByName (h : xs.Pairwise fun a b => a.1 ≠ b.1) :
    (sortByName xs).Pairwise fun a b => a.1 < b.1 := by
  have hsorted : (sortByName xs).Pairwise fun a b => decide (a.1 ≤ b.1) = true := by
    refine List.pairwise_mergeSort (fun a b c hab hbc => ?_) (fun a b => ?_) xs
    · simp only [decide_eq_true_eq] at hab hbc ⊢
      exact String.le_trans hab hbc
    · simpa using String.le_total a.1 b.1
  have hdifferent : (sortByName xs).Pairwise fun a b => a.1 ≠ b.1 :=
    (perm_sortByName xs).symm.pairwise h fun hab => Ne.symm hab
  refine hsorted.imp₂ (fun a b hle hne => ?_) hdifferent
  exact Std.lt_of_le_of_ne (by simpa using hle) hne

end Sorting

/-! ## The walk below an entry -/

/-- Is it a source file by its name? -/
def isSourceEntry (e : String × Entry) : Bool := e.2.isFile && isSourceName e.1

namespace Entry

mutual

/-- The names by which the source files below an entry are come to, in order. -/
def walk : Entry → List Location
  | file _ => []
  | directory es =>
    (sortByName (es.filter isSourceEntry)).map (fun e => [e.1]) ++
      (sortByName (walkDirectories es)).flatMap Prod.snd

/-- The walk through each directory among entries that is not left out. -/
def walkDirectories : List (String × Entry) → List (String × List Location)
  | [] => []
  | (name, e) :: rest =>
    if e.isFile || isSkipped name then walkDirectories rest
    else (name, (walk e).map (name :: ·)) :: walkDirectories rest

end

/-- The source file that names lead to. -/
def sourceAt (path relative : String) (names : Location) : SourceFile :=
  ⟨joinAll path names, joinAll relative names⟩

mutual

/-- The walk comes to all source files, in their order. -/
theorem sourcesBelow_eq_map (path relative : String) :
    (e : Entry) → sourcesBelow path relative e = e.walk.map (sourceAt path relative)
  | file _ => by rw [sourcesBelow, walk, List.map_nil]
  | directory es => by
    have hfiles : sourcesIn path relative es =
        ((sortByName (es.filter isSourceEntry)).map fun e => [e.1]).map
          (sourceAt path relative) := by
      rw [sourcesIn, List.map_map]
      rfl
    rw [sourcesBelow, walk, List.map_append, hfiles, sourcesOfDirectories_eq_map path relative es,
      sortByName_map, List.flatMap_map, List.map_flatMap]

/-- So it does in directories among entries. -/
theorem sourcesOfDirectories_eq_map (path relative : String) :
    (es : List (String × Entry)) → sourcesOfDirectories path relative es =
      (walkDirectories es).map fun x => (x.1, x.2.map (sourceAt path relative))
  | [] => by rw [sourcesOfDirectories, walkDirectories, List.map_nil]
  | (name, e) :: rest => by
    rw [sourcesOfDirectories, walkDirectories, sourcesOfDirectories_eq_map path relative rest]
    split
    · rfl
    · rw [sourcesBelow_eq_map (join path name) (join relative name) e, List.map_cons, List.map_map]
      rfl

end

/-- A directory is walked through if it is one and not left out. -/
theorem mem_walkDirectories {es : List (String × Entry)} {x : String × List Location} :
    x ∈ walkDirectories es ↔ ∃ e, (x.1, e) ∈ es ∧ e.isFile = false ∧ isSkipped x.1 = false ∧
      x.2 = e.walk.map (x.1 :: ·) := by
  induction es with
  | nil => simp [walkDirectories]
  | cons first es ih =>
    obtain ⟨name, e⟩ := first
    rw [walkDirectories]
    split
    · next hskip =>
      rw [ih]
      constructor
      · rintro ⟨child, hchild, hrest⟩
        exact ⟨child, List.mem_cons_of_mem _ hchild, hrest⟩
      · rintro ⟨child, hchild, hfile, hskipped, hwalk⟩
        rcases List.mem_cons.mp hchild with heq | hchild
        · obtain ⟨rfl, rfl⟩ := Prod.mk.inj heq
          simp [hfile, hskipped] at hskip
        · exact ⟨child, hchild, hfile, hskipped, hwalk⟩
    · next hskip =>
      rw [List.mem_cons, ih]
      constructor
      · rintro (rfl | ⟨child, hchild, hrest⟩)
        · have : e.isFile = false ∧ isSkipped name = false := by simpa using hskip
          exact ⟨e, List.mem_cons_self, this.1, this.2, rfl⟩
        · exact ⟨child, List.mem_cons_of_mem _ hchild, hrest⟩
      · rintro ⟨child, hchild, hfile, hskipped, hwalk⟩
        rcases List.mem_cons.mp hchild with heq | hchild
        · obtain ⟨rfl, rfl⟩ := Prod.mk.inj heq
          exact Or.inl (Prod.ext rfl hwalk)
        · exact Or.inr ⟨child, hchild, hfile, hskipped, hwalk⟩

/-- The directories walked through have different names. -/
theorem pairwise_walkDirectories {es : List (String × Entry)} (h : areWellNamed es = true) :
    (walkDirectories es).Pairwise fun x y => x.1 ≠ y.1 := by
  induction es with
  | nil =>
    rw [walkDirectories]
    exact List.Pairwise.nil
  | cons first es ih =>
    obtain ⟨name, e⟩ := first
    obtain ⟨_, hother, _, hrest⟩ := areWellNamed_cons.mp h
    rw [walkDirectories]
    split
    · exact ih hrest
    · refine List.Pairwise.cons ?_ (ih hrest)
      intro x hx
      obtain ⟨child, hchild, _⟩ := mem_walkDirectories.mp hx
      exact (hother _ hchild).symm

/-! ### What the walk comes to -/

/-- The walk comes to the source files in a directory and, through each directory in it that is not
left out, to what the walk there comes to. -/
theorem mem_walk {es : List (String × Entry)} {names : Location} :
    names ∈ (directory es).walk ↔
      (∃ e ∈ es, isSourceEntry e = true ∧ names = [e.1]) ∨
        ∃ name e rest, (name, e) ∈ es ∧ isSkipped name = false ∧ rest ∈ e.walk ∧
          names = name :: rest := by
  rw [walk, List.mem_append]
  refine or_congr ?_ ?_
  · simp only [List.mem_map, mem_sortByName, List.mem_filter, and_assoc]
    exact exists_congr fun e => and_congr_right' (and_congr_right' eq_comm)
  · simp only [List.mem_flatMap, mem_sortByName]
    constructor
    · rintro ⟨x, hx, hnames⟩
      obtain ⟨e, he, _, hskipped, hwalk⟩ := mem_walkDirectories.mp hx
      rw [hwalk] at hnames
      obtain ⟨rest, hrest, rfl⟩ := List.mem_map.mp hnames
      exact ⟨x.1, e, rest, he, hskipped, hrest, rfl⟩
    · rintro ⟨name, e, rest, he, hskipped, hrest, rfl⟩
      have hfile : e.isFile = false := by
        cases e with
        | file _ => simp [walk] at hrest
        | directory _ => rfl
      exact ⟨(name, e.walk.map (name :: ·)), mem_walkDirectories.mpr ⟨e, he, hfile, hskipped, rfl⟩,
        List.mem_map_of_mem hrest⟩

/-- Names lead from an entry to a source file, through directories that are not left out. -/
structure LeadsToSource (e : Entry) (names : Location) : Prop where
  isName : ∀ n ∈ names, IsName n
  file : ∃ content, e.at? names = some (file content)
  ending : ∃ above name, names = above ++ [name] ∧ isSourceName name = true ∧
    ∀ n ∈ above, isSkipped n = false

theorem leadsToSource_of_mem_walk {e : Entry} {names : Location} (h : e.isWellNamed = true)
    (hnames : names ∈ e.walk) : e.LeadsToSource names := by
  induction names generalizing e with
  | nil =>
    cases e with
    | file _ => simp [walk] at hnames
    | directory es => simp [mem_walk] at hnames
  | cons name names ih =>
    cases e with
    | file _ => simp [walk] at hnames
    | directory es =>
      have hes : areWellNamed es = true := by simpa only [isWellNamed] using h
      rcases mem_walk.mp hnames with
        ⟨⟨n, e⟩, he, hsource, heq⟩ | ⟨n, e, rest, he, hskipped, hrest, heq⟩
      · obtain ⟨rfl, rfl⟩ := List.cons.inj heq
        obtain ⟨hfile, hname⟩ : e.isFile = true ∧ isSourceName name = true := by
          simpa [isSourceEntry] using hsource
        cases e with
        | directory _ => cases hfile
        | file content =>
          refine ⟨by simpa using isName_of_mem hes he, ⟨content, ?_⟩, [], name, rfl, hname, by simp⟩
          simp [named?_of_mem hes he]
      · obtain ⟨rfl, rfl⟩ := List.cons.inj heq
        obtain ⟨hisName, hfile, above, last, rfl, hlast, habove⟩ :=
          ih (isWellNamed_of_mem hes he) hrest
        refine ⟨?_, ?_, name :: above, last, rfl, hlast, ?_⟩
        · exact List.forall_mem_cons.mpr ⟨isName_of_mem hes he, hisName⟩
        · simpa [named?_of_mem hes he] using hfile
        · exact List.forall_mem_cons.mpr ⟨hskipped, habove⟩

theorem ne_nil_of_mem_walk {e : Entry} {names : Location} (h : names ∈ e.walk) : names ≠ [] := by
  rintro rfl
  cases e with
  | file _ => simp [walk] at h
  | directory es => simp [mem_walk] at h

/-! ### In which order -/

/-- The order of source files below a directory: those of the directory itself by their names, then
those in its directories, by the names of these, and in the same order in each of them. -/
inductive Precedes : Location → Location → Prop
  | files {a b : String} : a < b → Precedes [a] [b]
  | own {a b : String} {ys : Location} : ys ≠ [] → Precedes [a] (b :: ys)
  | directories {a b : String} {xs ys : Location} :
    a < b → xs ≠ [] → ys ≠ [] → Precedes (a :: xs) (b :: ys)
  | within {a : String} {xs ys : Location} : Precedes xs ys → Precedes (a :: xs) (a :: ys)

theorem not_precedes_nil {xs : Location} : ¬ Precedes xs [] := nofun

/-- No two source files are before each other. -/
theorem Precedes.asymm {xs ys : Location} (h : Precedes xs ys) : ¬ Precedes ys xs := by
  intro hback
  induction h with
  | files hab =>
    cases hback with
    | files hba => exact String.lt_asymm hab hba
    | own hne => exact hne rfl
    | directories _ hne => exact hne rfl
    | within hnil => exact not_precedes_nil hnil
  | own hne =>
    cases hback with
    | files _ => exact hne rfl
    | own hnil => exact hnil rfl
    | directories _ _ hnil => exact hnil rfl
    | within hnil => exact not_precedes_nil hnil
  | directories hab hxs hys =>
    cases hback with
    | files hba => exact String.lt_asymm hab hba
    | own _ => exact hys rfl
    | directories hba => exact String.lt_asymm hab hba
    | within _ => exact String.lt_irrefl _ hab
  | within hxy ih =>
    cases hback with
    | files hab => exact String.lt_irrefl _ hab
    | own _ => exact not_precedes_nil hxy
    | directories hab => exact String.lt_irrefl _ hab
    | within hyx => exact ih hyx

theorem Precedes.ne {xs ys : Location} (h : Precedes xs ys) : xs ≠ ys := by
  rintro rfl
  exact h.asymm h

mutual

/-- The walk keeps the order. -/
theorem pairwise_walk : (e : Entry) → e.isWellNamed = true → e.walk.Pairwise Precedes
  | file _, _ => by
    rw [walk]
    exact List.Pairwise.nil
  | directory es, h => by
    have hes : areWellNamed es = true := by simpa only [isWellNamed] using h
    have hfiles : ((sortByName (es.filter isSourceEntry)).map fun e => [e.1]).Pairwise Precedes :=
      List.Pairwise.map _ (fun _ _ => Precedes.files)
        (pairwise_sortByName ((pairwise_ne hes).filter _))
    have hdirectories : ((sortByName (walkDirectories es)).flatMap Prod.snd).Pairwise Precedes := by
      refine List.pairwise_flatMap.mpr ⟨fun x hx => ?_, ?_⟩
      · exact pairwise_directory es hes x (mem_sortByName.mp hx)
      · -- walks through two directories are in the order of their first names
        have hpairs := pairwise_sortByName (pairwise_walkDirectories hes)
        refine hpairs.imp_of_mem fun {x y} hx hy hlt xs hxs ys hys => ?_
        obtain ⟨_, _, _, _, hx⟩ := mem_walkDirectories.mp (mem_sortByName.mp hx)
        obtain ⟨_, _, _, _, hy⟩ := mem_walkDirectories.mp (mem_sortByName.mp hy)
        rw [hx] at hxs
        rw [hy] at hys
        obtain ⟨a, ha, rfl⟩ := List.mem_map.mp hxs
        obtain ⟨b, hb, rfl⟩ := List.mem_map.mp hys
        exact .directories hlt (ne_nil_of_mem_walk ha) (ne_nil_of_mem_walk hb)
    rw [walk]
    refine List.pairwise_append.mpr ⟨hfiles, hdirectories, fun xs hxs ys hys => ?_⟩
    obtain ⟨e, _, rfl⟩ := List.mem_map.mp hxs
    obtain ⟨x, hx, hys⟩ := List.mem_flatMap.mp hys
    obtain ⟨child, _, _, _, hwalk⟩ := mem_walkDirectories.mp (mem_sortByName.mp hx)
    rw [hwalk] at hys
    obtain ⟨rest, hrest, rfl⟩ := List.mem_map.mp hys
    exact .own (ne_nil_of_mem_walk hrest)

/-- So does the walk through each directory among entries. -/
theorem pairwise_directory : (es : List (String × Entry)) → areWellNamed es = true →
    ∀ x ∈ walkDirectories es, x.2.Pairwise Precedes
  | [], _ => by simp [walkDirectories]
  | (name, e) :: rest, h => by
    obtain ⟨_, _, hentry, hrest⟩ := areWellNamed_cons.mp h
    have hothers := pairwise_directory rest hrest
    rw [walkDirectories]
    split
    · exact hothers
    · refine List.forall_mem_cons.mpr ⟨?_, hothers⟩
      exact List.Pairwise.map _ (fun _ _ => Precedes.within) (pairwise_walk e hentry)

end

/-- The walk comes to nothing twice. -/
theorem nodup_walk (e : Entry) (h : e.isWellNamed = true) : e.walk.Nodup :=
  (pairwise_walk e h).imp Precedes.ne

end Entry

end CustomElement.Files
