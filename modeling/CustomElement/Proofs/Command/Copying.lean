-- SUMMARY: A source without an element is copied, but for line ends: byte for byte if it has no carriage return.
import Mathlib.Data.List.Basic
import CustomElement.Proofs.Command.Overwriting
import CustomElement.Proofs.Element.Edit
import CustomElement.Proofs.Text.Utf8

/-! ## Copying

Where a module has nothing to make an element of, its code is its source. The source is a text that
was read with unified line ends, and the code is written as it is. So the target has the bytes of
the source file if these hold no carriage return, and a line feed for every other line end if they
do. -/

namespace CustomElement.Command

open Files Config Element Syntax Text

variable {trees : TreeReader} {s : Settings} {verbose : Bool} {output source home path : String}
  {d d' : Disk} {input bytes : Bytes} {cs : List Char} {out config : Option String}
  {f : SourceFile}

/-! ## Plain sources -/

/-- A file holds a module without anything to make an element of. -/
structure IsPlain (trees : TreeReader) (s : Settings) (d : Disk) (path : String) (bytes : Bytes)
    (cs : List Char) : Prop where
  content : d.readFile path = .ok bytes
  text : decodeUtf8 bytes = .ok cs
  noPlan : ∃ m, readModuleBy trees (String.ofList (unifyLineEnds cs)) = .ok m ∧ plan s m = none

/-- Its code is its text. -/
theorem IsPlain.compiled (h : IsPlain trees s d path bytes cs) (htrees : trees.InOrder) :
    (compileFileBy trees s d path).result = .ok (String.ofList (unifyLineEnds cs)) := by
  obtain ⟨m, hread, hplan⟩ := h.noPlan
  have htext : readSourceText d path = .ok (String.ofList (unifyLineEnds cs)) := by
    rw [readSourceText, Disk.readText, h.content]
    simp only [Disk.textOfBytes, h.text]
    rfl
  have hcovers := covers_of_readModuleBy htrees hread
  rw [compileFileBy, htext]
  dsimp only
  rw [compileLoggedBy_result, compileBy_of_readModuleBy hread, compileModule, hplan]
  exact congrArg Except.ok hcovers.print_source

/-! ## Reaching a source -/

section Reached

variable {o : Outcome} {ws : List Written} {code : String} {fs before after rest : List SourceFile}

/-- A source is written if no earlier one is refused, and it is not refused itself. -/
theorem WritesInOrder.exists_written (h : WritesInOrder trees s output d fs o ws rest)
    (hfs : fs = before ++ f :: after)
    (hbefore : ∀ g ∈ before, ∀ r, (compileFileBy trees s o.disk g.path).result ≠ .error r)
    (hf : ws.map Written.source = before →
      (compileFileBy trees s o.disk f.path).result = .ok code) :
    ∃ xs w ys, ws = xs ++ w :: ys ∧ xs.map Written.source = before ∧ w.source = f := by
  have hunwritten (more : List SourceFile) (hmore : before = ws.map Written.source ++ more)
      (hrest : rest = more ++ f :: after) : False := by
    -- the first source that is refused would come before or be the source itself
    rcases h.ending with ⟨rfl, _⟩ | ⟨g, tail, r, rfl, hrefused, _⟩
    · simp at hrest
    · cases more with
      | nil =>
        obtain ⟨rfl, _⟩ := List.cons.inj hrest
        rw [hf (by simpa using hmore.symm)] at hrefused
        cases hrefused
      | cons first others =>
        obtain ⟨rfl, _⟩ := List.cons.inj hrest
        exact hbefore g (by simp [hmore]) r hrefused
  have hsplit := h.sources.symm.trans hfs
  rcases List.append_eq_append_iff.mp hsplit with ⟨more, hmore, hrest⟩ | ⟨more, hmore, hrest⟩
  · exact (hunwritten more hmore hrest).elim
  · cases more with
    | nil => exact (hunwritten [] (by simpa using hmore.symm) (by simpa using hrest.symm)).elim
    | cons first others =>
      obtain ⟨rfl, _⟩ := List.cons.inj hrest
      obtain ⟨xs, zs, rfl, hxs, hzs⟩ := List.map_eq_append_iff.mp hmore
      obtain ⟨w, ys, rfl, hw, _⟩ := List.map_eq_cons_iff.mp hzs
      exact ⟨xs, w, ys, rfl, hxs, hw⟩

/-- Its target has the code that it had before the build, if no earlier target is the source. -/
theorem WritesInOrder.readFile_targetOf {l : Location}
    (h : WritesInOrder trees s output d fs o ws rest) (hapart : fs.Pairwise (Apart output))
    (hfs : fs = before ++ f :: after)
    (hbefore : ∀ g ∈ before, ∀ r, (compileFileBy trees s o.disk g.path).result ≠ .error r)
    (hl : d.resolve f.path = .ok l) (hfile : (d.fileAt l).isSome)
    (hkept : ∀ g ∈ before, o.disk.resolve (targetOf output g) ≠ .ok l)
    (hcompiled : (compileFileBy trees s d f.path).result = .ok code) :
    o.disk.readFile (targetOf output f) = .ok (encodeUtf8 code.toList) := by
  have hthen (hws : ws.map Written.source = before) :
      (compileFileBy trees s o.disk f.path).result = .ok code := by
    have hplace : l ∉ ws.map Written.place := by
      intro hmem
      obtain ⟨v, hv, rfl⟩ := List.mem_map.mp hmem
      exact hkept v.source (hws ▸ List.mem_map_of_mem hv) (h.steps.leads v hv)
    rw [compileFileBy_congr (h.steps.readFile_eq hl hfile hplace)]
    exact hcompiled
  obtain ⟨xs, w, ys, rfl, hxs, rfl⟩ := h.exists_written hfs hbefore hthen
  have hnodup := h.nodup_places hapart
  have hcode := (h.steps.compiledAfter hnodup ⟨l, hl, hfile⟩).asFound fun v hv hvl => by
    rw [hl] at hvl
    cases hvl
    exact hkept v.source (hxs ▸ List.mem_map_of_mem hv) (h.steps.leads v (by simp [hv]))
  obtain rfl : code = w.code := Except.ok.inj (hcompiled.symm.trans hcode)
  exact Disk.readFile_eq_ok_iff.mpr ⟨w.place, h.steps.leads w (by simp),
    h.steps.fileAt_place hnodup w (by simp)⟩

end Reached

/-! ## Plain sources are copied -/

/-- A source without an element is written with unified line ends: the bytes are the same if there
is no carriage return, and only then. No earlier source may be refused, for that ends the build, and
no earlier target may be the source. -/
theorem build_copies_plain {before after : List SourceFile} (htrees : trees.InOrder)
    (hnamed : d.root.isWellNamed = true) (hsource : source ≠ inputSource)
    (hs : loadSettings d home config = .ok s)
    (hfault : ∀ fault, (buildBy trees verbose d home input source out config).ending ≠
      .fault fault)
    (hfs : d.sources source = before ++ f :: after)
    (hbefore : ∀ g ∈ before, ∀ r, (compileFileBy trees s
      (buildBy trees verbose d home input source out config).disk g.path).result ≠ .error r)
    (hkept : ∀ g ∈ before, ∀ l, d.resolve f.path = .ok l →
      (buildBy trees verbose d home input source out config).disk.resolve
        (targetOf (outputDirectory out) g) ≠ .ok l)
    (hplain : IsPlain trees s d f.path bytes cs) :
    (buildBy trees verbose d home input source out config).disk.readFile
        (targetOf (outputDirectory out) f) = .ok (encodeUtf8 (unifyLineEnds cs)) ∧
      ((buildBy trees verbose d home input source out config).disk.readFile
        (targetOf (outputDirectory out) f) = .ok bytes ↔ (13 : UInt8) ∉ bytes) := by
  have hfound : d.sources source ≠ [] := by simp [hfs]
  have hapart := pairwise_apart source (outputDirectory_ne_empty out) hnamed
  obtain ⟨ws, rest, h⟩ := writesInOrder_build hnamed hs hsource hfound hfault
  have hmem : f ∈ d.sources source := by simp [hfs]
  obtain ⟨names, hnames⟩ := Disk.found_of_mem_sources hnamed hmem
  obtain ⟨_, l, _, hl, hfile, _⟩ := hnames.leads
  have hwritten := h.readFile_targetOf hapart hfs hbefore hl hfile
    (fun g hg => hkept g hg l hl) (hplain.compiled htrees)
  rw [String.toList_ofList] at hwritten
  refine ⟨hwritten, ?_⟩
  rw [hwritten, Except.ok.injEq, ← encodeUtf8_of_decodeUtf8 hplain.text]
  exact encodeUtf8_unifyLineEnds

/-! ### A line end of two characters -/

/-- A disk with a source file that holds a carriage return and a line feed. -/
def returnDisk : Disk where
  root := .directory [("a.js", .file [13, 10])]
  here := []

theorem isPlain_returnDisk :
    IsPlain blankReader {} returnDisk "a.js" [13, 10] ['\r', '\n'] where
  content := by decide +kernel
  text := by decide +kernel
  noPlan := ⟨_, rfl, rfl⟩

/-- The source is valid and has no element, and the target is another file than the source. -/
theorem build_drops_carriageReturn :
    IsPlain blankReader {} returnDisk "a.js" [13, 10] ['\r', '\n'] ∧
      (buildBy blankReader false returnDisk "/home" [] "a.js" none none).ending = .exit 0 ∧
      (buildBy blankReader false returnDisk "/home" [] "a.js" none none).disk.readFile
        (targetOf buildDirectory ⟨"a.js", "a.js"⟩) = .ok [10] :=
  ⟨isPlain_returnDisk, by decide +kernel, by decide +kernel⟩

theorem blankReader_inOrder : blankReader.InOrder := by
  intro text root h
  unfold blankReader at h
  split at h
  · obtain rfl := Option.some.inj h
    exact ⟨nofun, nofun, List.Pairwise.nil⟩
  · cases h

theorem build_copies_plain_return :
    (buildBy blankReader false returnDisk "/home" [] "a.js" none none).disk.readFile
        (targetOf (outputDirectory none) ⟨"a.js", "a.js"⟩) =
          .ok (encodeUtf8 (unifyLineEnds ['\r', '\n'])) ∧
      ((buildBy blankReader false returnDisk "/home" [] "a.js" none none).disk.readFile
        (targetOf (outputDirectory none) ⟨"a.js", "a.js"⟩) = .ok [13, 10] ↔
          (13 : UInt8) ∉ ([13, 10] : Bytes)) := by
  have hending : (buildBy blankReader false returnDisk "/home" [] "a.js" none none).ending =
      .exit 0 := by decide +kernel
  have hsources : returnDisk.sources "a.js" = [] ++ ⟨"a.js", "a.js"⟩ :: [] := by decide +kernel
  exact build_copies_plain blankReader_inOrder (by decide +kernel) (by decide) rfl
    (fun fault h => by rw [hending] at h; cases h) hsources (by simp) (by simp) isPlain_returnDisk

end CustomElement.Command
