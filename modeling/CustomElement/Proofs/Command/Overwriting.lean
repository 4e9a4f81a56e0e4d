-- SUMMARY: Which content of a source file a build compiles: the one it had before, or what an earlier target left.
import Mathlib.Data.List.Basic
import CustomElement.Proofs.Command.Targets

/-! ## Overwriting

Sources are listed before the first is written but read one by one. So an output directory inside
the one that is searched can have a target that is a later source, and then that source is compiled
as the target was written. In all other cases sources are compiled as they were found. -/

namespace CustomElement.Command

open Files Config Element Syntax

variable {trees : TreeReader} {s : Settings} {verbose : Bool} {output source home : String}
  {d d' : Disk} {input : Text.Bytes} {out config : Option String}

/-- What is compiled when a source is written after others. -/
structure CompiledAfter (trees : TreeReader) (s : Settings) (d d' : Disk) (before : List Written)
    (w : Written) : Prop where
  asFound : (∀ v ∈ before, d.resolve w.source.path ≠ .ok v.place) →
    (compileFileBy trees s d w.source.path).result = .ok w.code
  asWritten : ∀ v ∈ before, d.resolve w.source.path = .ok v.place →
    d'.readFile w.source.path = .ok v.content ∧
      (compileFileBy trees s d' w.source.path).result = .ok w.code

theorem Steps.compiledAfter {before after : List Written} {w : Written}
    (h : Steps trees s output d (before ++ w :: after) d')
    (hnodup : ((before ++ w :: after).map Written.place).Nodup)
    (hsource : ∃ l, d.resolve w.source.path = .ok l ∧ (d.fileAt l).isSome) :
    CompiledAfter trees s d d' before w := by
  obtain ⟨l, hl, hfile⟩ := hsource
  obtain ⟨e, _, hbefore, hstep, _⟩ := h.split
  refine ⟨fun hnone => ?_, fun v hv hvl => ?_⟩
  · have hplaces : l ∉ before.map Written.place := by
      intro hmem
      obtain ⟨v, hv, rfl⟩ := List.mem_map.mp hmem
      exact hnone v hv hl
    rw [← compileFileBy_congr (hbefore.readFile_eq hl hfile hplaces)]
    exact hstep.compiled
  · -- the file is as the earlier target was written, then and when all is done
    have hbeforeNodup : (before.map Written.place).Nodup := by
      rw [List.map_append] at hnodup
      exact hnodup.of_append_left
    have hthen : e.readFile w.source.path = .ok v.content :=
      Disk.readFile_eq_ok_iff.mpr
        ⟨v.place, hbefore.keeps.resolve hvl, hbefore.fileAt_place hbeforeNodup v hv⟩
    have hdone : d'.readFile w.source.path = .ok v.content :=
      Disk.readFile_eq_ok_iff.mpr
        ⟨v.place, h.keeps.resolve hvl, h.fileAt_place hnodup v (List.mem_append_left _ hv)⟩
    refine ⟨hdone, ?_⟩
    rw [compileFileBy_congr (hdone.trans hthen.symm)]
    exact hstep.compiled

/-- Each file that a build writes holds the code of its source as that was before the build, unless
an earlier target is that source: then it holds the code of what this target was written with. -/
theorem build_compiles_sources (hnamed : d.root.isWellNamed = true)
    (hsource : source ≠ inputSource) (hs : loadSettings d home config = .ok s)
    (hfound : d.sources source ≠ [])
    (hfault : ∀ fault, (buildBy trees verbose d home input source out config).ending ≠
      .fault fault) :
    ∃ ws rest, WritesTargets trees s (outputDirectory out) d (d.sources source)
        (buildBy trees verbose d home input source out config) ws rest ∧
      ∀ before w after, ws = before ++ w :: after → CompiledAfter trees s d
        (buildBy trees verbose d home input source out config).disk before w := by
  have hapart := pairwise_apart source (outputDirectory_ne_empty out) hnamed
  obtain ⟨ws, rest, h⟩ := writesInOrder_build hnamed hs hsource hfound hfault
  refine ⟨ws, rest, h.writesTargets hapart, ?_⟩
  rintro before w after rfl
  refine h.steps.compiledAfter (h.nodup_places hapart) ?_
  have hmem : w.source ∈ d.sources source := by
    rw [h.sources]
    simp
  obtain ⟨names, hnames⟩ := Disk.found_of_mem_sources hnamed hmem
  obtain ⟨_, l, _, hl, hfile, _⟩ := hnames.leads
  exact ⟨l, hl, hfile⟩

/-- A source is compiled as the same build wrote it: the first target is the second source, which
is found empty but makes a line end. -/
theorem build_overwrites_source :
    blankDisk.sources "src" = [⟨"src/a.js", "a.js"⟩, ⟨"src/sub/a.js", "sub/a.js"⟩] ∧
      targetOf "src/sub" ⟨"src/a.js", "a.js"⟩ = "src/sub/a.js" ∧
      (compileFileBy blankReader {} blankDisk "src/sub/a.js").result = .ok "" ∧
      (buildBy blankReader false blankDisk "/home" [] "src" (some "src/sub") none).ending =
        .exit 0 ∧
      (buildBy blankReader false blankDisk "/home" [] "src" (some "src/sub") none).disk.readFile
        (targetOf "src/sub" ⟨"src/sub/a.js", "sub/a.js"⟩) = .ok [10] := by
  refine ⟨by decide +kernel, by decide +kernel, ?_, by decide +kernel, by decide +kernel⟩
  decide +kernel

theorem build_compiles_sources_blank : ∃ ws rest, WritesTargets blankReader {} "src/sub" blankDisk
    (blankDisk.sources "src")
    (buildBy blankReader false blankDisk "/home" [] "src" (some "src/sub") none) ws rest ∧
      ∀ before w after, ws = before ++ w :: after → CompiledAfter blankReader {} blankDisk
        (buildBy blankReader false blankDisk "/home" [] "src" (some "src/sub") none).disk
        before w := by
  have hending : (buildBy blankReader false blankDisk "/home" [] "src" (some "src/sub")
      none).ending = .exit 0 := by decide +kernel
  have hsources : blankDisk.sources "src" ≠ [] := by decide +kernel
  exact build_compiles_sources (by decide +kernel) (by decide) rfl hsources
    (fun fault h => by rw [hending] at h; cases h)

end CustomElement.Command
