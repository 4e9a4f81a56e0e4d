-- SUMMARY: What is put into a build directory is not seen by a search that begins outside it.
import Mathlib.Data.List.Basic
import CustomElement.Proofs.Files.Search

/-! ## Hidden changes

A search leaves out every directory that has the name of the one that builds write into. So what is
changed in there changes no list of source files, unless the search begins in there. -/

namespace CustomElement.Files

namespace Entry

/-! ## Places above and aside -/

/-- An entry above the place has the new one put into it. -/
theorem at?_put_append {e x new : Entry} {a : Location} (h : e.at? a = some x) (b : Location) :
    (e.put (a ++ b) new).at? a = some (x.put b new) := by
  induction a generalizing e with
  | nil =>
    obtain rfl : e = x := by simpa using h
    simp
  | cons name a ih =>
    cases e with
    | file _ => cases h
    | directory es =>
      rw [at?_directory_cons, Option.bind_eq_some_iff] at h
      obtain ⟨child, hchild, h⟩ := h
      simp [named?_putNamed, hchild, ih h]

/-- An entry neither above the place nor below it stays. -/
theorem at?_put_of_not_prefix {e x new : Entry} {a l : Location} (hla : ¬ l <+: a) (hal : ¬ a <+: l)
    (h : e.at? a = some x) : (e.put l new).at? a = some x := by
  induction l generalizing e a with
  | nil => exact absurd List.nil_prefix hla
  | cons name l ih =>
    obtain _ | ⟨first, a⟩ := a
    · exact absurd List.nil_prefix hal
    cases e with
    | file _ => cases h
    | directory es =>
      rw [at?_directory_cons, Option.bind_eq_some_iff] at h
      obtain ⟨child, hchild, h⟩ := h
      by_cases hfirst : first = name
      · subst hfirst
        have hla' : ¬ l <+: a := fun hprefix => hla (List.cons_prefix_cons.mpr ⟨rfl, hprefix⟩)
        have hal' : ¬ a <+: l := fun hprefix => hal (List.cons_prefix_cons.mpr ⟨rfl, hprefix⟩)
        simp [named?_putNamed, hchild, ih hla' hal' h]
      · simp [named?_putNamed, hfirst, hchild, h]

/-! ## The walk past a build directory -/

/-- The order of names depends on the names alone. -/
theorem sortedNames_congr {xs ys : List (String × Entry)}
    (h : xs.map Prod.fst = ys.map Prod.fst) :
    (sortByName xs).map Prod.fst = (sortByName ys).map Prod.fst := by
  have hnames (zs : List (String × Entry)) : (sortByName zs).map Prod.fst =
      (sortByName ((zs.map Prod.fst).map fun name => (name, ()))).map Prod.fst := by
    have hsort : sortByName (zs.map fun z => (z.1, ())) =
        (sortByName zs).map fun z => (z.1, ()) := sortByName_map fun _ => ()
    rw [List.map_map]
    change _ = (sortByName (zs.map fun z => (z.1, ()))).map Prod.fst
    rw [hsort, List.map_map]
    rfl
  rw [hnames, hnames ys, h]

/-- An entry that the walk takes for another one: both are build directories, or the walk through
both is the same. -/
def Hides (name : String) (new : Entry) (es : List (String × Entry)) : Prop :=
  name = buildDirectory ∨
    ∃ old, named? es name = some old ∧ new.isFile = old.isFile ∧ new.walk = old.walk

variable {name : String} {new : Entry} {es : List (String × Entry)}

theorem Hides.tail {n : String} {e : Entry} (h : Hides name new ((n, e) :: es)) (hn : n ≠ name) :
    Hides name new es := by
  refine h.imp_right ?_
  rintro ⟨old, hold, hsame⟩
  exact ⟨old, by simpa [named?, hn] using hold, hsame⟩

theorem sourceNames_putNamed (h : Hides name new es) :
    ((putNamed name new es).filter isSourceEntry).map Prod.fst =
      (es.filter isSourceEntry).map Prod.fst := by
  induction es with
  | nil =>
    rcases h with rfl | ⟨old, hold, _⟩
    · have hsource : isSourceEntry (buildDirectory, new) = false := by
        simp [isSourceEntry, show isSourceName buildDirectory = false by decide]
      simp [putNamed, hsource]
    · cases hold
  | cons first es ih =>
    obtain ⟨n, e⟩ := first
    by_cases hn : n = name
    · subst hn
      have hsame : isSourceEntry (n, new) = isSourceEntry (n, e) := by
        rcases h with rfl | ⟨old, hold, hfile, _⟩
        · simp [isSourceEntry, show isSourceName buildDirectory = false by decide]
        · obtain rfl : e = old := by simpa [named?] using hold
          simp [isSourceEntry, hfile]
      simp only [putNamed, beq_self_eq_true, if_true, List.filter_cons, hsame]
      split <;> rfl
    · simp only [putNamed, beq_iff_eq, hn, if_false, List.filter_cons]
      split
      · rw [List.map_cons, List.map_cons, ih (h.tail hn)]
      · exact ih (h.tail hn)

theorem walkDirectories_putNamed (h : Hides name new es) :
    walkDirectories (putNamed name new es) = walkDirectories es := by
  induction es with
  | nil =>
    rcases h with rfl | ⟨old, hold, _⟩
    · have hskip : isSkipped buildDirectory = true := by decide
      simp [putNamed, walkDirectories, hskip]
    · cases hold
  | cons first es ih =>
    obtain ⟨n, e⟩ := first
    by_cases hn : n = name
    · subst hn
      simp only [putNamed, beq_self_eq_true, if_true, walkDirectories]
      rcases h with rfl | ⟨old, hold, hfile, hwalk⟩
      · have hskip : isSkipped buildDirectory = true := by decide
        simp [hskip]
      · obtain rfl : e = old := by simpa [named?] using hold
        rw [hfile, hwalk]
    · simp only [putNamed, beq_iff_eq, hn, if_false, walkDirectories, ih (h.tail hn)]

theorem walk_putNamed (h : Hides name new es) :
    (directory (putNamed name new es)).walk = (directory es).walk := by
  have hmap (xs : List (String × Entry)) :
      xs.map (fun e => [e.1]) = (xs.map Prod.fst).map fun n => [n] := by rw [List.map_map]; rfl
  rw [walk, walk, walkDirectories_putNamed h, hmap, hmap,
    sortedNames_congr (sourceNames_putNamed h)]

/-- The walk does not see what is put into a build directory below. -/
theorem walk_put {e : Entry} {a : Location} {es : List (String × Entry)}
    (h : e.at? a = some (directory es)) (b : Location) (new : Entry) :
    (e.put (a ++ buildDirectory :: b) new).walk = e.walk := by
  induction a generalizing e with
  | nil =>
    obtain rfl : e = directory es := by simpa using h
    exact walk_putNamed (Or.inl rfl)
  | cons name a ih =>
    cases e with
    | file _ => rfl
    | directory fs =>
      rw [at?_directory_cons, Option.bind_eq_some_iff] at h
      obtain ⟨child, hchild, h⟩ := h
      rw [List.cons_append, put_directory_cons, hchild, Option.getD_some]
      refine walk_putNamed (Or.inr ⟨child, hchild, ?_, ih h⟩)
      -- the child stays a file or a directory, for something is put below it
      cases child with
      | file _ => cases a <;> rfl
      | directory gs => cases a <;> rfl

end Entry

namespace Disk

variable {d d' : Disk} {l top : Location} {x : Shape} {source : String}

/-- A place in the directory that a build writes into, from where it was started. -/
def InBuild (d : Disk) (l : Location) : Prop := d.here ++ [buildDirectory] <+: l

/-- Something can be put inside only where the directory is there that the build was started in. -/
theorem Puts.shapeAt_here (h : Puts d l x d') (hl : d.InBuild l) :
    d.shapeAt d.here = some .directory := by
  obtain ⟨above, name, rfl, habove⟩ := h.inside
  have hprefix : d.here <+: above := by
    rcases List.prefix_concat_iff.mp hl with heq | hprefix
    · exact (List.append_inj' heq rfl).1 ▸ List.prefix_rfl
    · exact (List.prefix_append _ _).trans hprefix
  obtain ⟨between, rfl⟩ := hprefix
  by_cases hbetween : between = []
  · simpa [hbetween] using habove
  · exact shapeAt_above (by rw [habove]; rfl) hbetween

/-- The walk from outside does not see what is put inside. -/
theorem Puts.exists_at? {e : Entry} (h : Puts d l x d') (hl : d.InBuild l)
    (he : d.root.at? top = some e) (hout : ¬ d.InBuild top) :
    ∃ e', d'.root.at? top = some e' ∧ e'.isFile = e.isFile ∧ e'.walk = e.walk := by
  have hhere := h.shapeAt_here hl
  rw [h.eq, put]
  by_cases habove : top <+: d.here
  · obtain ⟨between, hbetween⟩ := habove
    obtain ⟨names, rfl⟩ := hl
    obtain ⟨es, hes⟩ : ∃ es, e.at? between = some (.directory es) := by
      rw [← hbetween, shapeAt, Entry.shape?_append he, Entry.shape?,
        Option.map_eq_some_iff] at hhere
      obtain ⟨y, hy, hshape⟩ := hhere
      obtain ⟨es, rfl⟩ := Entry.shape_eq_directory_iff.mp hshape
      exact ⟨es, hy⟩
    have hsplit : d.here ++ [buildDirectory] ++ names =
        top ++ (between ++ buildDirectory :: names) := by rw [← hbetween]; simp
    rw [hsplit]
    refine ⟨_, Entry.at?_put_append he _, ?_, Entry.walk_put hes _ _⟩
    cases e with
    | file _ => cases between <;> rfl
    | directory fs => cases between <;> rfl
  · refine ⟨e, Entry.at?_put_of_not_prefix (fun hbelow => hout (hl.trans hbelow)) ?_ he, rfl, rfl⟩
    intro hprefix
    rcases List.prefix_or_prefix_of_prefix hprefix hl with hbefore | hinside
    · rcases List.prefix_concat_iff.mp hbefore with rfl | hbefore
      · exact hout List.prefix_rfl
      · exact habove hbefore
    · exact hout hinside

/-- A search that begins outside goes on as before when something is put inside. -/
theorem sources_puts (h : Puts d l x d') (hl : d.InBuild l) (htop : d.resolve source = .ok top)
    (hout : ¬ d.InBuild top) : d'.sources source = d.sources source := by
  obtain ⟨e, he, hentry⟩ := entry_of_resolve htop
  obtain ⟨e', he', hfile, hwalk⟩ := h.exists_at? hl he hout
  have hentry' : d'.entry source = .ok e' :=
    entry_eq_ok_iff.mpr ⟨top, h.keeps.resolve htop, he'⟩
  exact sources_eq_of_entry hentry hentry' hfile hwalk

/-- So it does whatever is put inside. -/
theorem sources_grows {may : Location → Shape → Prop} (h : Grows may d d')
    (hmay : ∀ l x, may l x → d.InBuild l) (htop : d.resolve source = .ok top)
    (hout : ¬ d.InBuild top) : d'.sources source = d.sources source := by
  induction h with
  | refl => rfl
  | @tail e _ hgrows hstep ih =>
    obtain ⟨l, x, hl, hputs⟩ := hstep
    have hkeeps := Grows.keeps hgrows
    have hinside (m : Location) : e.InBuild m ↔ d.InBuild m := by
      rw [InBuild, InBuild, hkeeps.here]
    rw [sources_puts hputs ((hinside l).mpr (hmay l x hl)) (hkeeps.resolve htop)
      (mt (hinside top).mp hout), ih]

/-- A source file that is found from outside is outside. -/
theorem Found.exists_outside {names : Location} {f : SourceFile} (h : d.Found source names f)
    (hout : ∀ top, d.resolve source = .ok top → ¬ d.InBuild top) :
    ∃ l, d.resolve f.path = .ok l ∧ (d.fileAt l).isSome ∧ ¬ d.InBuild l := by
  obtain ⟨top, l, htop, hl, hfile, hplace⟩ := h.leads
  refine ⟨l, hl, hfile, ?_⟩
  rcases hplace with rfl | ⟨rfl, hnames⟩
  · exact hout l htop
  · intro hinside
    rcases List.prefix_or_prefix_of_prefix hinside (List.prefix_append _ names) with hwhole | hpart
    · exact hout top htop hwhole
    · -- the names would go through the build directory
      rcases List.prefix_concat_iff.mp hpart with rfl | hpart
      · exact hout _ htop List.prefix_rfl
      · obtain ⟨between, hbetween⟩ := hpart
        rw [InBuild, ← hbetween, List.append_assoc, List.prefix_append_right_inj] at hinside
        exact hnames (hinside.subset (by simp))

end Disk

end CustomElement.Files
