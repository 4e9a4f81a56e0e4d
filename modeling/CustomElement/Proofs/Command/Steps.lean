-- SUMMARY: The steps of a build: one source after the other is compiled and its code is written.
import Mathlib.Data.List.Basic
import CustomElement.Command.Build
import CustomElement.Proofs.Files.Search

/-! ## Steps

A build takes one step for each source: it compiles the source as it is on the disk by then and
writes the code to the target. A step changes one file and makes directories above it, so what a
whole build does to a file is known from where the targets are. -/

namespace CustomElement.Command

open Files Config Element Syntax

variable {trees : TreeReader} {s : Settings} {verbose : Bool} {output target code : String}
  {d d' d'' : Disk} {place l : Location}

/-! ## One target -/

theorem directoryOf_ne_empty (target : String) : directoryOf target ≠ "" := by
  unfold directoryOf
  split
  · decide
  · assumption

/-- Writing code makes directories, then puts the code where the target leads. -/
theorem grows_writeTarget (htarget : target ≠ "") (h : writeTarget d target code = (d', none)) :
    ∃ between place, Disk.Grows (Disk.MayMake d (directoryOf target)) d between ∧
      Disk.Puts between place (.file (Text.encodeUtf8 code.toList)) d' ∧
      d'.resolve target = .ok place := by
  have hmake := Disk.grows_makeDirectories (d := d) (directoryOf_ne_empty target)
  rw [writeTarget] at h
  split at h
  · cases h
  · next between hbetween =>
    rw [hbetween] at hmake
    split at h
    · next hwrite =>
      cases h
      obtain ⟨place, hputs, hleads⟩ := Disk.puts_of_writeFile htarget hwrite
      exact ⟨between, place, hmake, hputs, hleads⟩
    · cases h

/-- The directory for a target is there if the target is. -/
theorem isDirectory_directoryOf (h : d.resolve target = .ok place)
    (hfile : (d.fileAt place).isSome) : d.isDirectory (directoryOf target) = true := by
  have hname := Disk.isName_baseName h hfile
  rw [Disk.isDirectory_iff, directoryOf]
  split
  · next hparent =>
    -- a name by itself leads on from here
    have hbase := baseName_of_parent hparent
    rw [hbase] at hname
    obtain ⟨rfl, hthere⟩ := (Disk.resolve_name hname).mp h
    have hhere := Disk.shapeAt_above hthere (by simp)
    exact ⟨d.here, Disk.resolve_dot hhere, hhere⟩
  · next hparent =>
    obtain ⟨above, habove, hfollow⟩ :=
      (Disk.resolve_of_leadsOn (leadsOn_parent hparent) hname.noZero).mp h
    exact ⟨above, habove, Disk.shapeAt_of_follow_cons hfollow⟩

/-- Code that is in its target already is written again without any change. -/
theorem writeTarget_of_written (h : d.resolve target = .ok place)
    (hfile : d.fileAt place = some (Text.encodeUtf8 code.toList)) :
    writeTarget d target code = (d, none) := by
  have hdirectory := isDirectory_directoryOf h (by rw [hfile]; rfl)
  rw [writeTarget, Disk.makeDirectories_of_isDirectory hdirectory]
  simp only [Disk.writeText, Disk.writeFile_of_fileAt h hfile]

/-! ## One step -/

/-- A source whose code was written: to which place, and what the code is. -/
structure Written where
  source : SourceFile
  place : Location
  code : String

/-- The bytes of the code. -/
def Written.content (w : Written) : Text.Bytes := Text.encodeUtf8 w.code.toList

/-- A source is compiled as it is on the disk, and the code is written to its target. -/
structure Step (trees : TreeReader) (s : Settings) (output : String) (d : Disk) (w : Written)
    (d' : Disk) : Prop where
  compiled : (compileFileBy trees s d w.source.path).result = .ok w.code
  written : writeTarget d (targetOf output w.source) w.code = (d', none)
  leads : d'.resolve (targetOf output w.source) = .ok w.place

namespace Step

variable {w : Written}

/-- A step makes directories, then puts the code at its place. -/
theorem grows (h : Step trees s output d w d') : ∃ between,
    Disk.Grows (Disk.MayMake d (directoryOf (targetOf output w.source))) d between ∧
      Disk.Puts between w.place (.file w.content) d' := by
  obtain ⟨between, place, hmake, hputs, hleads⟩ :=
    grows_writeTarget (Disk.ne_empty_of_resolve h.leads) h.written
  rw [h.leads] at hleads
  cases hleads
  exact ⟨between, hmake, hputs⟩

theorem keeps (h : Step trees s output d w d') : Disk.Keeps d d' := by
  obtain ⟨between, hmake, hputs⟩ := h.grows
  exact hmake.keeps.trans hputs.keeps

/-- One file is changed by a step. -/
theorem fileAt_eq (h : Step trees s output d w d') (l : Location) :
    d'.fileAt l = if l = w.place then some w.content else d.fileAt l := by
  obtain ⟨between, hmake, hputs⟩ := h.grows
  rw [hputs.fileAt_of_file, hmake.fileAt_eq (fun _ _ hmay => hmay.1)]

end Step

/-! ## Several steps -/

/-- Steps one after the other. -/
inductive Steps (trees : TreeReader) (s : Settings) (output : String) :
    Disk → List Written → Disk → Prop where
  | refl (d : Disk) : Steps trees s output d [] d
  | step {d d' d'' : Disk} {w : Written} {ws : List Written} (first : Step trees s output d w d')
      (rest : Steps trees s output d' ws d'') : Steps trees s output d (w :: ws) d''

namespace Steps

variable {ws xs ys : List Written} {w : Written}

theorem keeps (h : Steps trees s output d ws d') : Disk.Keeps d d' := by
  induction h with
  | refl d => exact Disk.Keeps.refl d
  | step first _ ih => exact first.keeps.trans ih

/-- Files that are no targets stay. -/
theorem fileAt_of_notMem (h : Steps trees s output d ws d') (hl : l ∉ ws.map Written.place) :
    d'.fileAt l = d.fileAt l := by
  induction h with
  | refl d => rfl
  | step first _ ih =>
    rw [List.map_cons, List.mem_cons, not_or] at hl
    rw [ih hl.2, first.fileAt_eq, if_neg hl.1]

/-- The targets lead to their places when all is done. -/
theorem leads (h : Steps trees s output d ws d') :
    ∀ w ∈ ws, d'.resolve (targetOf output w.source) = .ok w.place := by
  induction h with
  | refl d => simp
  | step first rest ih =>
    exact List.forall_mem_cons.mpr ⟨rest.keeps.resolve first.leads, ih⟩

/-- Where no place is written twice, each has the code of its source when all is done. -/
theorem fileAt_place (h : Steps trees s output d ws d') (hnodup : (ws.map Written.place).Nodup) :
    ∀ w ∈ ws, d'.fileAt w.place = some w.content := by
  induction h with
  | refl d => simp
  | step first rest ih =>
    rw [List.map_cons, List.nodup_cons] at hnodup
    refine List.forall_mem_cons.mpr ⟨?_, ih hnodup.2⟩
    rw [rest.fileAt_of_notMem hnodup.1, first.fileAt_eq, if_pos rfl]

/-- Steps can be taken apart at each of them. -/
theorem split (h : Steps trees s output d (xs ++ w :: ys) d') : ∃ before after,
    Steps trees s output d xs before ∧ Step trees s output before w after ∧
      Steps trees s output after ys d' := by
  induction xs generalizing d with
  | nil =>
    cases h with
    | step first rest => exact ⟨d, _, refl d, first, rest⟩
  | cons x xs ih =>
    cases h with
    | step first rest =>
      obtain ⟨before, after, hbefore, hstep, hafter⟩ := ih rest
      exact ⟨before, after, step first hbefore, hstep, hafter⟩

end Steps

/-! ## Compiling again -/

/-- Only the content of a file counts for its code. -/
theorem compileFileBy_congr {path : String} (h : d'.readFile path = d.readFile path) :
    compileFileBy trees s d' path = compileFileBy trees s d path := by
  have htext : readSourceText d' path = readSourceText d path := by
    rw [readSourceText, readSourceText, Disk.readText, Disk.readText, h]
  rw [compileFileBy, compileFileBy, htext]

/-- A file that is no target is read as before. -/
theorem Steps.readFile_eq {ws : List Written} {path : String} (h : Steps trees s output d ws d')
    (hpath : d.resolve path = .ok l) (hfile : (d.fileAt l).isSome)
    (hl : l ∉ ws.map Written.place) : d'.readFile path = d.readFile path := by
  obtain ⟨content, hcontent⟩ := Option.isSome_iff_exists.mp hfile
  rw [Disk.readFile_eq_ok_iff.mpr ⟨l, hpath, hcontent⟩]
  refine Disk.readFile_eq_ok_iff.mpr ⟨l, h.keeps.resolve hpath, ?_⟩
  rw [h.fileAt_of_notMem hl, hcontent]

/-! ## The loop -/

namespace Outcome

@[simp] theorem after_disk (notes : List Note) (o : Outcome) : (o.after notes).disk = o.disk := rfl

@[simp] theorem after_ending (notes : List Note) (o : Outcome) :
    (o.after notes).ending = o.ending := rfl

@[simp] theorem concluded_disk (o : Outcome) (message : String) :
    (o.concluded message).disk = o.disk := by
  unfold concluded
  split <;> rfl

@[simp] theorem concluded_ending (o : Outcome) (message : String) :
    (o.concluded message).ending = o.ending := by
  unfold concluded
  split <;> rfl

end Outcome

section Loop

variable {f : SourceFile} {fs : List SourceFile}

/-- A source that is refused ends the build. -/
theorem buildFilesBy_of_error {r : Report.Diagnostic}
    (h : (compileFileBy trees s d f.path).result = .error r) :
    buildFilesBy trees s verbose output d (f :: fs) =
      (Outcome.reported d ("Compilation of " ++ f.path) r).after
        (details verbose (compileFileBy trees s d f.path).log) := by
  rw [buildFilesBy]
  simp only [h]

/-- A fault in writing ends the build. -/
theorem buildFilesBy_of_fault {fault : PathFault}
    (h : (compileFileBy trees s d f.path).result = .ok code)
    (hwrite : writeTarget d (targetOf output f) code = (d', some fault)) :
    (buildFilesBy trees s verbose output d (f :: fs)).ending = .fault fault := by
  rw [buildFilesBy]
  simp only [h, hwrite, Outcome.unlessFault, Outcome.after_ending]

/-- After a source has been written the build goes on with the others. -/
theorem buildFilesBy_of_written (h : (compileFileBy trees s d f.path).result = .ok code)
    (hwrite : writeTarget d (targetOf output f) code = (d', none)) :
    buildFilesBy trees s verbose output d (f :: fs) =
      ((buildFilesBy trees s verbose output d' fs).after
        [.info (f.path ++ " -> " ++ targetOf output f)]).after
          (details verbose (compileFileBy trees s d f.path).log) := by
  rw [buildFilesBy]
  simp only [h, hwrite, Outcome.unlessFault]

/-- Sources are written one after the other, up to the first that cannot be compiled. -/
structure WritesInOrder (trees : TreeReader) (s : Settings) (output : String) (d : Disk)
    (fs : List SourceFile) (o : Outcome) (ws : List Written) (rest : List SourceFile) : Prop where
  sources : fs = ws.map Written.source ++ rest
  steps : Steps trees s output d ws o.disk
  /-- Either all are written, or the next one is refused as it is by then. -/
  ending : rest = [] ∧ o.ending = .exit 0 ∨ ∃ f tail r, rest = f :: tail ∧
    (compileFileBy trees s o.disk f.path).result = .error r ∧ o.ending = .exit 1

/-- A build that is not kept from writing takes steps in the order of its sources. -/
theorem writesInOrder_buildFiles (htargets : ∀ f ∈ fs, targetOf output f ≠ "")
    (hfault : ∀ fault, (buildFilesBy trees s verbose output d fs).ending ≠ .fault fault) :
    ∃ ws rest, WritesInOrder trees s output d fs (buildFilesBy trees s verbose output d fs) ws
      rest := by
  induction fs generalizing d with
  | nil =>
    rw [buildFilesBy]
    exact ⟨[], [], rfl, Steps.refl d, Or.inl ⟨rfl, rfl⟩⟩
  | cons f fs ih =>
    rw [List.forall_mem_cons] at htargets
    cases hcompiled : (compileFileBy trees s d f.path).result with
    | error r =>
      rw [buildFilesBy_of_error hcompiled]
      exact ⟨[], f :: fs, rfl, Steps.refl d, Or.inr ⟨f, fs, r, rfl, hcompiled, rfl⟩⟩
    | ok code =>
      rcases hwrite : writeTarget d (targetOf output f) code with ⟨d', _ | fault⟩
      · rw [buildFilesBy_of_written hcompiled hwrite] at hfault ⊢
        obtain ⟨ws, rest, hsources, hsteps, hending⟩ := ih htargets.2 hfault
        obtain ⟨_, place, _, _, hleads⟩ := grows_writeTarget htargets.1 hwrite
        have hstep : Step trees s output d ⟨f, place, code⟩ d' := ⟨hcompiled, hwrite, hleads⟩
        refine ⟨⟨f, place, code⟩ :: ws, rest, ?_, Steps.step hstep hsteps, hending⟩
        rw [hsources, List.map_cons, List.cons_append]
      · exact absurd (buildFilesBy_of_fault hcompiled hwrite) (hfault fault)

end Loop

end CustomElement.Command
