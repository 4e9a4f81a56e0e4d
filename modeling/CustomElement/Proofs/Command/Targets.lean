-- SUMMARY: What a build writes: the targets of its sources, each in its own place, and nothing else.
import Mathlib.Data.List.Basic
import CustomElement.Proofs.Command.Steps

/-! ## Targets

A target is spelled by the names by which its source was found, below the output directory. So
targets of different sources lead to different places, wherever the output directory is, and a
build leaves each target as it wrote it. -/

namespace CustomElement.Command

open Files Config Element Syntax Grammar Parsing

variable {trees : TreeReader} {s : Settings} {verbose : Bool} {output source : String}
  {d d' : Disk} {place : Location} {f : SourceFile} {names : Location}

/-! ## Where targets are -/

theorem outputDirectory_ne_empty (output : Option String) : outputDirectory output ≠ "" := by
  unfold outputDirectory
  split
  · decide
  · decide
  · next h => exact fun hempty => h (by rw [hempty])

/-- The target of a source is spelled by its names. -/
theorem targetOf_eq (h : f.IsNamed names) : targetOf output f = joinAll output names := by
  rw [targetOf, h.relative, join_joinAll h.ne_nil h.isName]

theorem targetOf_ne_empty (h : f.IsNamed names) : targetOf output f ≠ "" := by
  obtain ⟨above, name, rfl⟩ := names.eq_nil_or_concat'.resolve_left h.ne_nil
  rw [targetOf_eq h, joinAll_append]
  exact join_ne_empty (h.isName name (by simp))

/-- On any disk a target leads to the place that its names spell below the output directory. -/
theorem resolve_targetOf (houtput : output ≠ "") (h : f.IsNamed names) :
    d'.resolve (targetOf output f) = .ok place ↔
      ∃ top, d'.resolve output = .ok top ∧ place = top ++ names ∧ (d'.shapeAt place).isSome := by
  rw [targetOf_eq h, Disk.resolve_joinAll houtput h.isName]

/-! ## Targets apart -/

/-- Two sources have targets of their own: other paths, and on any disk other places. -/
structure Apart (output : String) (f g : SourceFile) : Prop where
  paths : targetOf output f ≠ targetOf output g
  places : ∀ (e : Disk) (p q : Location), e.resolve (targetOf output f) = .ok p →
    e.resolve (targetOf output g) = .ok q → p ≠ q

/-- The names in a path go on with those that are joined to it. -/
theorem namesOf_components_joinAll (hp : output ≠ "") (h : ∀ n ∈ names, IsName n) :
    namesOf (components (joinAll output names)) = namesOf (components output) ++ names := by
  induction names generalizing output with
  | nil => simp
  | cons name names ih =>
    rw [List.forall_mem_cons] at h
    obtain ⟨cs, k, m, houtput, hjoin⟩ := (leadsOn_join hp h.1).exists_components
    rw [joinAll_cons, ih (join_ne_empty h.1) h.2, hjoin, houtput]
    simp [namesOf_of_isName h.1]

theorem apart_of_isNamed {g : SourceFile} {xs ys : Location} (houtput : output ≠ "") (hne : xs ≠ ys)
    (hf : f.IsNamed xs) (hg : g.IsNamed ys) : Apart output f g where
  paths heq := by
    rw [targetOf_eq hf, targetOf_eq hg] at heq
    have hnames := congrArg (fun path => namesOf (components path)) heq
    simp only [namesOf_components_joinAll houtput hf.isName,
      namesOf_components_joinAll houtput hg.isName] at hnames
    exact hne (List.append_cancel_left hnames)
  places e p q hp hq := by
    obtain ⟨top, htop, rfl, _⟩ := (resolve_targetOf houtput hf).mp hp
    obtain ⟨top', htop', rfl, _⟩ := (resolve_targetOf houtput hg).mp hq
    rw [htop] at htop'
    cases htop'
    exact fun heq => hne (List.append_cancel_left heq)

/-- No two source files that a path stands for share a target. -/
theorem pairwise_apart (source : String) (houtput : output ≠ "")
    (hnamed : d.root.isWellNamed = true) : (d.sources source).Pairwise (Apart output) := by
  refine (Disk.pairwise_sources hnamed).imp ?_
  rintro f g ⟨xs, ys, hne, hf, hg⟩
  exact apart_of_isNamed houtput hne hf.toIsNamed hg.toIsNamed

/-- So no place is written twice. -/
theorem Steps.nodup_places {ws : List Written} (h : Steps trees s output d ws d')
    (hapart : (ws.map Written.source).Pairwise (Apart output)) :
    (ws.map Written.place).Nodup := by
  rw [List.pairwise_map] at hapart
  rw [List.Nodup, List.pairwise_map]
  refine hapart.imp_of_mem fun {v w} hv hw hvw => ?_
  exact hvw.places d' v.place w.place (h.leads v hv) (h.leads w hw)

/-! ## The whole build -/

section Build

variable {home : String} {input : Text.Bytes} {out config : Option String}

theorem buildBy_of_loadSettings (hs : loadSettings d home config = .ok s)
    (hsource : source ≠ inputSource) :
    buildBy trees verbose d home input source out config =
      buildSourcesBy trees s verbose d source out := by
  rw [buildBy, hs]
  simp only [if_neg hsource]

theorem pathExists_of_sources (h : d.sources source ≠ []) : d.pathExists source = true := by
  rw [Disk.pathExists]
  cases hentry : d.entry source with
  | error fault => simp [Disk.sources, hentry] at h
  | ok e => rfl

/-- Where there are sources the build is the loop over them, with a note at its end. -/
theorem buildSourcesBy_of_sources (h : d.sources source ≠ []) :
    buildSourcesBy trees s verbose d source out =
      (buildFilesBy trees s verbose (outputDirectory out) d (d.sources source)).concluded
        ("Built " ++ toString (d.sources source).length ++ " file(s) into " ++
          outputDirectory out ++ "/") := by
  rw [buildSourcesBy, pathExists_of_sources h]
  simp only [Bool.not_true, Bool.false_eq_true, if_false]

/-- A build that is not kept from writing takes steps in the order of its sources. -/
theorem writesInOrder_build (hnamed : d.root.isWellNamed = true)
    (hs : loadSettings d home config = .ok s) (hsource : source ≠ inputSource)
    (hfound : d.sources source ≠ [])
    (hfault : ∀ fault, (buildBy trees verbose d home input source out config).ending ≠
      .fault fault) :
    ∃ ws rest, WritesInOrder trees s (outputDirectory out) d (d.sources source)
      (buildBy trees verbose d home input source out config) ws rest := by
  rw [buildBy_of_loadSettings hs hsource, buildSourcesBy_of_sources hfound] at hfault ⊢
  simp only [Outcome.concluded_ending] at hfault
  obtain ⟨ws, rest, h⟩ := writesInOrder_buildFiles (fun f hf => by
    obtain ⟨names, hnames⟩ := Disk.found_of_mem_sources hnamed hf
    exact targetOf_ne_empty hnames.toIsNamed) hfault
  exact ⟨ws, rest, h.sources, by simpa using h.steps, by simpa using h.ending⟩

/-- Without sources to build, nothing is done. -/
theorem buildBy_of_refused (hsource : source ≠ inputSource)
    (h : (∃ r, loadSettings d home config = .error r) ∨ d.pathExists source = false ∨
      d.sources source = []) :
    (buildBy trees verbose d home input source out config).disk = d ∧
      (buildBy trees verbose d home input source out config).ending = .exit 1 := by
  cases hs : loadSettings d home config with
  | error r =>
    rw [buildBy, hs]
    exact ⟨rfl, rfl⟩
  | ok s =>
    rw [buildBy_of_loadSettings hs hsource, buildSourcesBy]
    rcases h with ⟨r, hr⟩ | hmissing | hnone
    · rw [hs] at hr
      cases hr
    · rw [hmissing]
      exact ⟨rfl, rfl⟩
    · rw [hnone]
      cases d.pathExists source with
      | false => exact ⟨rfl, rfl⟩
      | true => exact ⟨rfl, rfl⟩

/-- A build writes the targets of its sources in order, and changes no other file. -/
structure WritesTargets (trees : TreeReader) (s : Settings) (output : String) (d : Disk)
    (fs : List SourceFile) (o : Outcome) (ws : List Written) (rest : List SourceFile) : Prop
    extends WritesInOrder trees s output d fs o ws rest where
  written : ∀ w ∈ ws, o.disk.resolve (targetOf output w.source) = .ok w.place ∧
    o.disk.fileAt w.place = some w.content
  unchanged : ∀ l, l ∉ ws.map Written.place → o.disk.fileAt l = d.fileAt l
  untouched : ∀ f ∈ rest, ∀ l, o.disk.resolve (targetOf output f) = .ok l →
    o.disk.fileAt l = d.fileAt l

variable {fs rest : List SourceFile} {o : Outcome} {ws : List Written}

theorem WritesInOrder.nodup_places (h : WritesInOrder trees s output d fs o ws rest)
    (hapart : fs.Pairwise (Apart output)) : (ws.map Written.place).Nodup := by
  rw [h.sources, List.pairwise_append] at hapart
  exact h.steps.nodup_places hapart.1

theorem WritesInOrder.writesTargets (h : WritesInOrder trees s output d fs o ws rest)
    (hapart : fs.Pairwise (Apart output)) : WritesTargets trees s output d fs o ws rest := by
  have hnodup := h.nodup_places hapart
  rw [h.sources, List.pairwise_append] at hapart
  obtain ⟨_, _, hrest⟩ := hapart
  refine ⟨h, fun w hw => ⟨h.steps.leads w hw, h.steps.fileAt_place hnodup w hw⟩,
    fun l hl => h.steps.fileAt_of_notMem hl, fun f hf l hl => ?_⟩
  refine h.steps.fileAt_of_notMem fun hmem => ?_
  obtain ⟨w, hw, rfl⟩ := List.mem_map.mp hmem
  have := hrest w.source (List.mem_map_of_mem hw) f hf
  exact this.places o.disk _ _ (h.steps.leads w hw) hl rfl

/-- What a build writes: nothing where it has no sources to build; otherwise the targets of its
sources up to the first that is refused, and no other file. -/
theorem build_writes_targets (hnamed : d.root.isWellNamed = true) (hsource : source ≠ inputSource)
    (hfault : ∀ fault, (buildBy trees verbose d home input source out config).ending ≠
      .fault fault) :
    ((∃ r, loadSettings d home config = .error r) ∨ d.pathExists source = false ∨
        d.sources source = [] →
      (buildBy trees verbose d home input source out config).disk = d ∧
        (buildBy trees verbose d home input source out config).ending = .exit 1) ∧
      (∀ s, loadSettings d home config = .ok s → d.sources source ≠ [] →
        ∃ ws rest, WritesTargets trees s (outputDirectory out) d (d.sources source)
          (buildBy trees verbose d home input source out config) ws rest) ∧
      (d.sources source).Pairwise (Apart (outputDirectory out)) := by
  have hapart := pairwise_apart source (outputDirectory_ne_empty out) hnamed
  refine ⟨buildBy_of_refused hsource, fun s hs hfound => ?_, hapart⟩
  obtain ⟨ws, rest, h⟩ := writesInOrder_build hnamed hs hsource hfound hfault
  exact ⟨ws, rest, h.writesTargets hapart⟩

end Build

/-! ### Blank texts -/

/-- A reader of blank texts: they are programs without statements. -/
def blankReader : TreeReader := fun text =>
  if text.all fun c => c = ' ' || c = '\n' then
    some (.mk (.phrase .program) false false false ⟨0, 0⟩ ⟨0, 0⟩ [])
  else none

/-- A disk with two source files of one name in two directories: a line end, and nothing. -/
def blankDisk : Disk where
  root := .directory [("src", .directory [("a.js", .file [10]),
    ("sub", .directory [("a.js", .file [])])])]
  here := []

theorem build_writes_targets_blank : ∃ ws rest, WritesTargets blankReader {} "out" blankDisk
    (blankDisk.sources "src")
    (buildBy blankReader false blankDisk "/home" [] "src" (some "out") none) ws rest := by
  have hending : (buildBy blankReader false blankDisk "/home" [] "src" (some "out") none).ending =
      .exit 0 := by decide +kernel
  have hsources : blankDisk.sources "src" ≠ [] := by decide +kernel
  exact (build_writes_targets (by decide +kernel) (by decide)
    (fun fault h => by rw [hending] at h; cases h)).2.1 {} rfl hsources

end CustomElement.Command
