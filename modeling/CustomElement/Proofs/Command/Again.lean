-- SUMMARY: Building again into the usual directory changes nothing: sources, settings and code are the same.
import Mathlib.Data.List.Basic
import CustomElement.Proofs.Command.Targets
import CustomElement.Proofs.Config.Lookup
import CustomElement.Proofs.Files.Hidden

/-! ## Building again

Code of elements must not be compiled again: an element would be made of an element. A build into
the usual directory changes only what is in there, and neither the search for sources nor the one
for settings comes there. So a second build finds what the first found and writes what is written
already. -/

namespace CustomElement.Command

open Files Config Element Syntax

variable {trees : TreeReader} {s : Settings} {verbose : Bool} {output source home : String}
  {d d' : Disk} {place l : Location} {f : SourceFile} {names : Location} {x : Shape}

/-! ## What a build changes -/

/-- What may change: in the usual directory files under the names of sources, and directories on
the way to them. -/
def MayBuild (d : Disk) (l : Location) (x : Shape) : Prop :=
  ∃ names, l = d.here ++ buildDirectory :: names ∧ (∀ n ∈ names.dropLast, isSkipped n = false) ∧
    (x = .directory → ∀ n ∈ names, isSkipped n = false)

theorem namesOf_targetOf (h : f.IsNamed names) :
    namesOf (components (targetOf buildDirectory f)) = buildDirectory :: names := by
  have hname : IsName buildDirectory := isName_buildDirectory
  rw [targetOf_eq h, namesOf_components_joinAll hname.ne_empty h.isName, components_of_isName hname,
    namesOf_of_isName hname]
  rfl

/-- A target in the usual directory leads to the place that its names spell there. -/
theorem place_of_resolve (h : f.IsNamed names)
    (hl : d.resolve (targetOf buildDirectory f) = .ok l) :
    l = d.here ++ buildDirectory :: names := by
  have hname : IsName buildDirectory := isName_buildDirectory
  obtain ⟨top, htop, rfl, _⟩ := (resolve_targetOf hname.ne_empty h).mp hl
  obtain ⟨rfl, _⟩ := (Disk.resolve_name hname).mp htop
  simp

section Directory

variable (h : f.IsNamed names) (hbase : IsName (baseName (targetOf buildDirectory f)))
include h hbase

theorem parent_targetOf_ne_empty : parent (targetOf buildDirectory f) ≠ "" := by
  intro hempty
  have hnames := namesOf_targetOf h
  rw [baseName_of_parent hempty] at hbase
  rw [components_of_isName hbase, namesOf_of_isName hbase] at hnames
  exact h.ne_nil (List.cons.inj hnames).2.symm

/-- The directory for such a target is spelled by its names without the last. -/
theorem namesOf_parent_targetOf : namesOf (components (parent (targetOf buildDirectory f))) =
    buildDirectory :: names.dropLast := by
  obtain ⟨cs, k, m, hp, htarget⟩ :=
    (leadsOn_parent (parent_targetOf_ne_empty h hbase)).exists_components
  have hnames := namesOf_targetOf h
  rw [htarget] at hnames
  have hdrop := congrArg List.dropLast hnames
  rw [List.dropLast_cons_of_ne_nil h.ne_nil] at hdrop
  simpa [hp, namesOf_of_isName hbase] using hdrop

theorem notMem_parent_targetOf : ".." ∉ components (parent (targetOf buildDirectory f)) := by
  intro hmem
  have hleads := leadsOn_parent (parent_targetOf_ne_empty h hbase)
  have hwhole : ".." ∈ components (targetOf buildDirectory f) :=
    (hleads.mem_components (by decide)).mpr (Or.inl hmem)
  have hnames : ".." ∈ namesOf (components (targetOf buildDirectory f)) := by
    simpa [namesOf] using hwhole
  rw [namesOf_targetOf h, List.mem_cons] at hnames
  rcases hnames with heq | hname
  · exact absurd heq (by decide)
  · exact (h.isName _ hname).ne_above rfl

theorem startOf_parent_targetOf : d.startOf (parent (targetOf buildDirectory f)) = d.here := by
  have hname : IsName buildDirectory := isName_buildDirectory
  have hleads := leadsOn_parent (parent_targetOf_ne_empty h hbase)
  have habsolute : isAbsolute (targetOf buildDirectory f) = false := by
    rw [targetOf_eq h]
    exact isAbsolute_joinAll (isAbsolute_name hname) h.isName
  rw [Disk.startOf, ← hleads.isAbsolute_eq, habsolute, if_neg Bool.false_ne_true]

theorem mayBuild_of_mayMake
    (hmay : Disk.MayMake d (directoryOf (targetOf buildDirectory f)) l x) : MayBuild d l x := by
  rw [directoryOf, if_neg (parent_targetOf_ne_empty h hbase)] at hmay
  obtain ⟨made, hne, hprefix, hl⟩ := hmay.2 (notMem_parent_targetOf h hbase)
  rw [namesOf_parent_targetOf h hbase] at hprefix
  rw [startOf_parent_targetOf h hbase] at hl
  rcases List.prefix_cons_iff.mp hprefix with hnil | ⟨rest, hmade, hrest⟩
  · exact absurd hnil hne
  have hskip : ∀ n ∈ rest, isSkipped n = false := fun n hn => h.notSkipped n (hrest.subset hn)
  refine ⟨rest, ?_, fun n hn => hskip n (List.dropLast_subset rest hn), fun _ => hskip⟩
  rw [hl, hmade]

end Directory

theorem Step.grows_build {w : Written} (h : Step trees s buildDirectory d w d')
    (hnamed : w.source.IsNamed names) : Disk.Grows (MayBuild d) d d' := by
  obtain ⟨between, hmake, hputs⟩ := h.grows
  have hbase : IsName (baseName (targetOf buildDirectory w.source)) :=
    Disk.isName_baseName h.leads (by rw [h.fileAt_eq, if_pos rfl]; rfl)
  have hplace : w.place = d.here ++ buildDirectory :: names := by
    rw [← h.keeps.here]
    exact place_of_resolve hnamed h.leads
  have hfile : MayBuild d w.place (.file w.content) :=
    ⟨names, hplace, hnamed.notSkipped, fun hdirectory => by cases hdirectory⟩
  exact (hmake.mono fun _ _ => mayBuild_of_mayMake hnamed hbase).trans
    (Disk.Grows.single hfile hputs)

/-- So is what a whole build changes. -/
theorem Steps.grows_build {ws : List Written} (h : Steps trees s buildDirectory d ws d')
    (hnamed : ∀ w ∈ ws, ∃ names, w.source.IsNamed names) : Disk.Grows (MayBuild d) d d' := by
  induction h with
  | refl d => exact Disk.Grows.refl d
  | step first rest ih =>
    rw [List.forall_mem_cons] at hnamed
    obtain ⟨⟨names, hfirst⟩, hrest⟩ := hnamed
    refine (first.grows_build hfirst).trans ((ih hrest).mono fun l x hl => ?_)
    rwa [MayBuild, first.keeps.here] at hl

theorem MayBuild.inBuild (h : MayBuild d l x) : d.InBuild l := by
  obtain ⟨names, rfl, _⟩ := h
  exact ⟨names, by simp⟩

/-- Settings are looked up elsewhere. -/
theorem keepsSettings_of_grows (h : Disk.Grows (MayBuild d) d d') : KeepsSettings d d' where
  keeps := h.keeps
  here := by
    refine h.shapeAt_eq ?_
    rintro x ⟨names, heq, _⟩
    have hnames := List.append_cancel_left heq
    exact absurd (List.cons.inj hnames).1 (by decide)
  directory l := by
    refine h.directory_back ?_
    rintro ⟨names, heq, _, hskip⟩
    rcases names.eq_nil_or_concat' with rfl | ⟨above, name, rfl⟩
    · exact absurd (List.append_inj' heq rfl).2 (by decide)
    · rw [← List.cons_append, ← List.append_assoc] at heq
      obtain rfl : userDirectory = name := by simpa using (List.append_inj' heq rfl).2
      exact absurd (hskip rfl userDirectory (by simp)) (by decide)
  file l := by
    refine h.shapeAt_eq ?_
    rintro x ⟨names, heq, hskip, _⟩
    have hsplit : l ++ [userDirectory, fileName] = l ++ [userDirectory] ++ [fileName] := by simp
    rw [hsplit] at heq
    rcases names.eq_nil_or_concat' with rfl | ⟨above, name, rfl⟩
    · exact absurd (List.append_inj' heq rfl).2 (by decide)
    · rw [← List.cons_append, ← List.append_assoc] at heq
      have habove := (List.append_inj' heq rfl).1
      rw [List.dropLast_concat] at hskip
      rcases above.eq_nil_or_concat' with rfl | ⟨above, last, rfl⟩
      · exact absurd (List.append_inj' habove rfl).2 (by decide)
      · rw [← List.cons_append, ← List.append_assoc] at habove
        obtain rfl : userDirectory = last := by simpa using (List.append_inj' habove rfl).2
        exact absurd (hskip userDirectory (by simp)) (by decide)

/-! ## The second build -/

/-- On the disk that a build leaves, its sources are built as on the disk it found, if none of them
is a target. -/
theorem Steps.buildFilesBy_again {ws : List Written} (h : Steps trees s output d ws d')
    (hnodup : (ws.map Written.place).Nodup)
    (hsources : ∀ w ∈ ws, ∃ l, d.resolve w.source.path = .ok l ∧ (d.fileAt l).isSome ∧
      l ∉ ws.map Written.place) :
    buildFilesBy trees s verbose output d' (ws.map Written.source) =
      buildFilesBy trees s verbose output d (ws.map Written.source) := by
  induction h with
  | refl d => rfl
  | @step d e d' w ws first rest ih =>
    have hall := Steps.step first rest
    rw [List.map_cons]
    have hagain : buildFilesBy trees s verbose output d' (ws.map Written.source) =
        buildFilesBy trees s verbose output e (ws.map Written.source) := by
      refine ih (List.nodup_cons.mp hnodup).2 fun v hv => ?_
      obtain ⟨l, hl, hfile, hplace⟩ := hsources v (List.mem_cons_of_mem _ hv)
      rw [List.map_cons, List.mem_cons, not_or] at hplace
      refine ⟨l, first.keeps.resolve hl, ?_, hplace.2⟩
      rw [first.fileAt_eq, if_neg hplace.1]
      exact hfile
    obtain ⟨l, hl, hfile, hplace⟩ := hsources w List.mem_cons_self
    have hcompile : compileFileBy trees s d' w.source.path =
        compileFileBy trees s d w.source.path :=
      compileFileBy_congr (hall.readFile_eq hl hfile hplace)
    have hcompiled : (compileFileBy trees s d' w.source.path).result = .ok w.code := by
      rw [hcompile]
      exact first.compiled
    have hwritten : writeTarget d' (targetOf output w.source) w.code = (d', none) :=
      writeTarget_of_written (hall.leads w List.mem_cons_self)
        (hall.fileAt_place hnodup w List.mem_cons_self)
    rw [buildFilesBy_of_written hcompiled hwritten, hagain, hcompile,
      buildFilesBy_of_written first.compiled first.written]

variable {input : Text.Bytes}

/-- A text that is handed over is built without any change. -/
theorem buildBy_disk_of_input (h : source = inputSource) {out config : Option String} :
    (buildBy trees verbose d home input source out config).disk = d := by
  rw [buildBy]
  split
  · rfl
  · rw [if_pos h, buildInputBy]
    split
    · rfl
    · dsimp only
      split
      · rfl
      · rfl

/-- A build that succeeds writes all its sources. -/
theorem exists_steps_of_success {out config : Option String} (hnamed : d.root.isWellNamed = true)
    (hsource : source ≠ inputSource)
    (h : (buildBy trees verbose d home input source out config).ending = .exit 0) :
    ∃ s ws, loadSettings d home config = .ok s ∧ d.sources source = ws.map Written.source ∧
      ws ≠ [] ∧ Steps trees s (outputDirectory out) d ws
        (buildBy trees verbose d home input source out config).disk := by
  have hrefused : ¬ ((∃ r, loadSettings d home config = .error r) ∨ d.pathExists source = false ∨
      d.sources source = []) := by
    intro hrefused
    rw [(buildBy_of_refused hsource hrefused).2] at h
    cases h
  push Not at hrefused
  obtain ⟨hsettings, _, hfound⟩ := hrefused
  cases hs : loadSettings d home config with
  | error r => exact absurd hs (hsettings r)
  | ok s =>
    obtain ⟨ws, rest, hall⟩ := writesInOrder_build hnamed hs hsource hfound
      (fun fault hfault => by rw [hfault] at h; cases h)
    rcases hall.ending with ⟨rfl, _⟩ | ⟨_, _, _, _, _, hfailed⟩
    · have hws : d.sources source = ws.map Written.source := by rw [hall.sources, List.append_nil]
      refine ⟨s, ws, rfl, hws, ?_, hall.steps⟩
      rintro rfl
      exact hfound hws
    · rw [hfailed] at h
      cases h

theorem exists_found_of_mem {ws : List Written} {w : Written} (hnamed : d.root.isWellNamed = true)
    (hws : d.sources source = ws.map Written.source) (hw : w ∈ ws) :
    ∃ names, d.Found source names w.source := by
  refine Disk.found_of_mem_sources hnamed ?_
  rw [hws]
  exact List.mem_map_of_mem hw

section Repeated

variable {ws : List Written} (hsteps : Steps trees s buildDirectory d ws d')
  (hws : d.sources source = ws.map Written.source) (hnamed : d.root.isWellNamed = true)
include hsteps hws hnamed

theorem Steps.grows_of_sources : Disk.Grows (MayBuild d) d d' :=
  hsteps.grows_build fun w hw => by
    obtain ⟨names, hnames⟩ := exists_found_of_mem hnamed hws hw
    exact ⟨names, hnames.toIsNamed⟩

/-- All is written in the usual directory. -/
theorem Steps.inBuild : ∀ w ∈ ws, d.InBuild w.place := by
  intro w hw
  obtain ⟨names, hnames⟩ := exists_found_of_mem hnamed hws hw
  rw [place_of_resolve hnames.toIsNamed (hsteps.leads w hw), hsteps.keeps.here]
  exact ⟨names, by simp⟩

variable (hout : ∀ top, d.resolve source = .ok top → ¬ d.InBuild top)
include hout

/-- The same sources are found again. -/
theorem Steps.sources_again : d'.sources source = d.sources source := by
  by_cases hfound : d.sources source = []
  · obtain rfl : ws = [] := by simpa [hfound] using hws.symm
    cases hsteps
    rfl
  · obtain ⟨top, htop⟩ := Disk.pathExists_iff.mp (pathExists_of_sources hfound)
    exact Disk.sources_grows (hsteps.grows_of_sources hws hnamed) (fun _ _ => MayBuild.inBuild) htop
      (hout top htop)

/-- They are built as before. -/
theorem Steps.buildFiles_again : buildFilesBy trees s verbose buildDirectory d' (d.sources source) =
    buildFilesBy trees s verbose buildDirectory d (d.sources source) := by
  have hname : IsName buildDirectory := isName_buildDirectory
  have hapart := pairwise_apart source hname.ne_empty hnamed
  rw [hws] at hapart ⊢
  refine hsteps.buildFilesBy_again (hsteps.nodup_places hapart) fun w hw => ?_
  obtain ⟨names, hnames⟩ := exists_found_of_mem hnamed hws hw
  obtain ⟨l, hl, hfile, hinside⟩ := hnames.exists_outside hout
  refine ⟨l, hl, hfile, fun hplace => ?_⟩
  obtain ⟨v, hv, rfl⟩ := List.mem_map.mp hplace
  exact hinside (hsteps.inBuild hws hnamed v hv)

end Repeated

/-- A build into the usual directory that succeeds can be repeated: the second build finds the same
sources, none of them in that directory, and everything is as after the first. The user's directory
is there, or its path does not lead back through what the build makes. -/
theorem build_again (hnamed : d.root.isWellNamed = true)
    (hhome : d.pathExists home = true ∨ ".." ∉ components home)
    (hout : ∀ top, d.resolve source = .ok top → ¬ d.InBuild top)
    (hsuccess : (buildBy trees verbose d home input source none none).ending = .exit 0) :
    buildBy trees verbose (buildBy trees verbose d home input source none none).disk home input
        source none none = buildBy trees verbose d home input source none none ∧
      (buildBy trees verbose d home input source none none).disk.sources source =
        d.sources source ∧
      ∀ f ∈ d.sources source, ∃ l, d.resolve f.path = .ok l ∧ ¬ d.InBuild l := by
  refine and_assoc.mp ⟨?_, fun f hf => ?_⟩
  · by_cases hsource : source = inputSource
    · rw [buildBy_disk_of_input hsource]
      exact ⟨rfl, rfl⟩
    · obtain ⟨s, ws, hs, hws, hne, hsteps⟩ := exists_steps_of_success hnamed hsource hsuccess
      have hdirectory : outputDirectory none = buildDirectory := rfl
      rw [hdirectory] at hsteps
      have hfound : d.sources source ≠ [] := by simpa [hws] using hne
      have hsame := hsteps.sources_again hws hnamed hout
      have hsettings := (keepsSettings_of_grows
        (hsteps.grows_of_sources hws hnamed)).loadSettings_eq hhome
      refine ⟨?_, hsame⟩
      rw [buildBy_of_loadSettings (hsettings.trans hs) hsource,
        buildSourcesBy_of_sources (by rw [hsame]; exact hfound), hsame,
        hdirectory, hsteps.buildFiles_again hws hnamed hout, buildBy_of_loadSettings hs hsource,
        buildSourcesBy_of_sources hfound, hdirectory]
  · obtain ⟨names, hnames⟩ := Disk.found_of_mem_sources hnamed hf
    obtain ⟨l, hl, _, hinside⟩ := hnames.exists_outside hout
    exact ⟨l, hl, hinside⟩

theorem build_again_blank :
    buildBy blankReader false
        (buildBy blankReader false blankDisk "/home" [] "src" none none).disk "/home" [] "src"
        none none = buildBy blankReader false blankDisk "/home" [] "src" none none ∧
      (buildBy blankReader false blankDisk "/home" [] "src" none none).disk.sources "src" =
        blankDisk.sources "src" ∧
      ∀ f ∈ blankDisk.sources "src", ∃ l, blankDisk.resolve f.path = .ok l ∧
        ¬ blankDisk.InBuild l := by
  have hresolve : blankDisk.resolve "src" = .ok ["src"] := by decide +kernel
  refine build_again (by decide +kernel) (Or.inr (by decide)) (fun top htop => ?_)
    (by decide +kernel)
  rw [hresolve] at htop
  cases htop
  rw [Disk.InBuild]
  decide +kernel

end CustomElement.Command
