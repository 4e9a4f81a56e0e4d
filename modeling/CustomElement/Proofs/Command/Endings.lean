-- SUMMARY: How the program ends on all arguments, disks and inputs: in order, or by a blocked write.
import CustomElement.Command.Run
import CustomElement.Proofs.Command.Targets

/-! ## Endings

A run that ends in order succeeds, or says what is wrong and has a status that tells so. All that
can go wrong in reading ends in order. What can go wrong in writing does not: a run ends in a fault
exactly if the code of a source or the first configuration cannot be written. -/

namespace CustomElement.Command

open Files Config Element Syntax

variable {trees : TreeReader} {s : Settings} {verbose : Bool} {output : String} {d : Disk}
  {f : SourceFile} {fs : List SourceFile} {fault : PathFault}

/-! ## Endings in order -/

/-- The run succeeds, or an error is the last that it says and its status is one, or the usage of a
command is and its status is two. -/
inductive Outcome.Orderly (o : Outcome) : Prop where
  | success (hexit : o.ending = .exit 0)
  | failure (before : List Note) (message : String) (hexit : o.ending = .exit 1)
      (hnotes : o.notes = before ++ [.error message])
  | refusal (before : List Note) (c : CommandSpec) (message : String) (hexit : o.ending = .exit 2)
      (hnotes : o.notes = before ++ [.usage c message])

/-- The run ends in order, unless it ends in one of certain faults. -/
structure Outcome.EndsBy (o : Outcome) (faults : PathFault → Prop) : Prop where
  orderly : (∀ fault, o.ending ≠ .fault fault) → o.Orderly
  fault_iff : ∀ fault, o.ending = .fault fault ↔ faults fault

namespace Outcome

variable {o : Outcome} {P Q : PathFault → Prop}

theorem orderly_failed (d : Disk) (message : String) : (failed d message).Orderly :=
  .failure [] message rfl rfl

theorem orderly_reported (d : Disk) (title : String) (r : Report.Diagnostic) :
    (reported d title r).Orderly :=
  orderly_failed d _

theorem orderly_stopped (d : Disk) (stop : Stop) : (stopped d stop).Orderly := by
  cases stop with
  | help c => exact .success rfl
  | refused c message => exact .refusal [] c message rfl rfl

theorem Orderly.ending_ne_fault (h : o.Orderly) (fault : PathFault) : o.ending ≠ .fault fault := by
  cases h with
  | success hexit | failure _ _ hexit _ | refusal _ _ _ hexit _ =>
    rw [hexit]
    exact fun h => nomatch h

theorem Orderly.after (h : o.Orderly) (notes : List Note) : (o.after notes).Orderly := by
  cases h with
  | success hexit => exact .success hexit
  | failure before message hexit hnotes =>
    refine .failure (notes ++ before) message hexit ?_
    rw [Outcome.after, hnotes, List.append_assoc]
  | refusal before c message hexit hnotes =>
    refine .refusal (notes ++ before) c message hexit ?_
    rw [Outcome.after, hnotes, List.append_assoc]

theorem Orderly.concluded (h : o.Orderly) (message : String) : (o.concluded message).Orderly := by
  by_cases hexit : o.ending = .exit 0
  · exact .success (by rw [concluded_ending, hexit])
  · have hsame : o.concluded message = o := by
      unfold Outcome.concluded
      split
      · next hzero => exact absurd hzero hexit
      · rfl
    rwa [hsame]

theorem Orderly.endsBy (h : o.Orderly) (hP : ∀ fault, ¬ P fault) : o.EndsBy P where
  orderly _ := h
  fault_iff fault := iff_of_false (h.ending_ne_fault fault) (hP fault)

theorem endsBy_fault (h : o.ending = .fault fault) (hP : ∀ other, P other ↔ other = fault) :
    o.EndsBy P where
  orderly hnone := absurd h (hnone fault)
  fault_iff other := by
    rw [h, hP, Ending.fault.injEq, eq_comm]

namespace EndsBy

theorem congr (h : o.EndsBy P) (hPQ : ∀ fault, Q fault ↔ P fault) : o.EndsBy Q where
  orderly := h.orderly
  fault_iff fault := (h.fault_iff fault).trans (hPQ fault).symm

theorem after (h : o.EndsBy P) (notes : List Note) : (o.after notes).EndsBy P where
  orderly hnone := (h.orderly hnone).after notes
  fault_iff := h.fault_iff

theorem concluded (h : o.EndsBy P) (message : String) : (o.concluded message).EndsBy P where
  orderly hnone := (h.orderly (by simpa using hnone)).concluded message
  fault_iff fault := by rw [concluded_ending, h.fault_iff]

end EndsBy

end Outcome

open Outcome

/-! ## Blocked writes -/

/-- Sources are written one after the other, up to one that is compiled but cannot be written. -/
structure Blocked (trees : TreeReader) (s : Settings) (output : String) (d : Disk)
    (fs : List SourceFile) (fault : PathFault) : Prop where
  exists_steps : ∃ ws f rest e e' code, fs = ws.map Written.source ++ f :: rest ∧
    Steps trees s output d ws e ∧ (compileFileBy trees s e f.path).result = .ok code ∧
      writeTarget e (targetOf output f) code = (e', some fault)

theorem not_blocked_nil : ¬ Blocked trees s output d [] fault := by
  rintro ⟨ws, f, rest, e, e', code, hsources, _⟩
  simp at hsources

/-- The first source is blocked, or it is written and one of the others is blocked. -/
theorem blocked_cons_iff (htarget : targetOf output f ≠ "") :
    Blocked trees s output d (f :: fs) fault ↔
      ∃ code d' written, (compileFileBy trees s d f.path).result = .ok code ∧
        writeTarget d (targetOf output f) code = (d', written) ∧
          (written = some fault ∨ written = none ∧ Blocked trees s output d' fs fault) := by
  constructor
  · rintro ⟨ws, g, rest, e, e', code, hsources, hsteps, hcompiled, hblocked⟩
    cases hsteps with
    | refl d =>
      cases hsources
      exact ⟨code, e', some fault, hcompiled, hblocked, .inl rfl⟩
    | step first others =>
      cases hsources
      exact ⟨_, _, none, first.compiled, first.written, .inr ⟨rfl,
        ⟨_, g, rest, e, e', code, rfl, others, hcompiled, hblocked⟩⟩⟩
  · rintro ⟨code, d', written, hcompiled, hwrite, rfl | ⟨rfl, hothers⟩⟩
    · exact ⟨[], f, fs, d, d', code, rfl, .refl d, hcompiled, hwrite⟩
    · obtain ⟨ws, g, rest, e, e', code', rfl, hsteps, hcompiled', hblocked⟩ := hothers
      obtain ⟨_, place, _, _, hleads⟩ := grows_writeTarget htarget hwrite
      have hstep : Step trees s output d ⟨f, place, code⟩ d' := ⟨hcompiled, hwrite, hleads⟩
      exact ⟨⟨f, place, code⟩ :: ws, g, rest, e, e', code', rfl, .step hstep hsteps, hcompiled',
        hblocked⟩

/-- The loop over sources ends in a fault exactly if one of them is blocked. -/
theorem endsBy_buildFiles (houtput : output ≠ "") :
    (buildFilesBy trees s verbose output d fs).EndsBy (Blocked trees s output d fs) := by
  induction fs generalizing d with
  | nil =>
    rw [buildFilesBy]
    exact (Orderly.success rfl).endsBy fun _ => not_blocked_nil
  | cons f fs ih =>
    have htarget : targetOf output f ≠ "" := join_ne_empty_of_directory houtput f.relative
    cases hcompiled : (compileFileBy trees s d f.path).result with
    | error r =>
      rw [buildFilesBy_of_error hcompiled]
      refine ((orderly_reported d _ r).after _).endsBy fun fault => ?_
      simp [blocked_cons_iff htarget, hcompiled]
    | ok code =>
      rcases hwrite : writeTarget d (targetOf output f) code with ⟨d', _ | fault⟩
      · rw [buildFilesBy_of_written hcompiled hwrite]
        refine ((ih.after _).after _).congr fun fault => ?_
        simp [blocked_cons_iff htarget, hcompiled, hwrite]
      · refine endsBy_fault (buildFilesBy_of_fault hcompiled hwrite) fun other => ?_
        simp [blocked_cons_iff htarget, hcompiled, hwrite, eq_comm]

/-! ## The commands -/

section Commands

variable {home source file : String} {input : Text.Bytes} {out config : Option String}
  {json : Bool}

/-- A request leads to a write that fails: of the code of a source, or of a first configuration. -/
inductive Escapes (trees : TreeReader) (d : Disk) (home : String) : Request → PathFault → Prop where
  | code {source : String} {output config : Option String} {s : Settings} {fault : PathFault}
      (settings : loadSettings d home config = .ok s) (hsource : source ≠ inputSource)
      (blocked : Blocked trees s (outputDirectory output) d (d.sources source) fault) :
      Escapes trees d home (.build source output config) fault
  | configuration {reason : Fault} (missing : d.pathExists fileName = false)
      (blocked : d.writeText fileName ({} : Settings).document = .error reason) :
      Escapes trees d home .init ⟨reason, fileName⟩

theorem orderly_buildInput : (buildInputBy trees s verbose d input).Orderly := by
  unfold buildInputBy
  split
  · exact orderly_failed d _
  · refine Orderly.after ?_ _
    split
    · exact orderly_reported d _ _
    · exact .success rfl

theorem endsBy_buildSources :
    (buildSourcesBy trees s verbose d source out).EndsBy
      (Blocked trees s (outputDirectory out) d (d.sources source)) := by
  by_cases hfound : d.sources source = []
  · have hnot (fault : PathFault) :
        ¬ Blocked trees s (outputDirectory out) d (d.sources source) fault := by
      rw [hfound]
      exact not_blocked_nil
    refine Orderly.endsBy ?_ hnot
    unfold buildSourcesBy
    split
    · exact orderly_failed d _
    · rw [hfound]
      exact orderly_failed d _
  · rw [buildSourcesBy_of_sources hfound]
    exact (endsBy_buildFiles (outputDirectory_ne_empty out)).concluded _

theorem endsBy_build :
    (buildBy trees verbose d home input source out config).EndsBy
      (Escapes trees d home (.build source out config)) := by
  cases hs : loadSettings d home config with
  | error r =>
    rw [buildBy, hs]
    refine (orderly_reported d _ r).endsBy ?_
    rintro fault ⟨hs', _, _⟩
    rw [hs] at hs'
    cases hs'
  | ok s =>
    by_cases hsource : source = inputSource
    · rw [buildBy, hs]
      simp only [if_pos hsource]
      refine orderly_buildInput.endsBy ?_
      rintro fault ⟨_, hne, _⟩
      exact hne hsource
    · rw [buildBy_of_loadSettings hs hsource]
      refine endsBy_buildSources.congr fun fault => ⟨?_, fun h => .code hs hsource h⟩
      rintro ⟨hs', _, hblocked⟩
      rw [hs] at hs'
      cases hs'
      exact hblocked

/-- Nothing is written to show an element. -/
theorem orderly_check : (checkBy trees verbose d home file json config).Orderly := by
  unfold checkBy
  split
  · exact orderly_failed d _
  · split
    · exact orderly_reported d _ _
    · split
      · exact orderly_reported d _ _
      · split
        · exact (orderly_reported d _ _).after _
        · exact .success rfl

theorem endsBy_init : (init d).EndsBy (Escapes trees d home .init) := by
  cases hexists : d.pathExists fileName with
  | true =>
    rw [init, hexists]
    refine (Orderly.success rfl).endsBy ?_
    rintro _ ⟨⟩
    next hmissing _ =>
      rw [hexists] at hmissing
      cases hmissing
  | false =>
    cases hwrite : d.writeText fileName ({} : Settings).document with
    | error reason =>
      rw [init, hexists]
      simp only [hwrite, Bool.false_eq_true, if_false]
      refine endsBy_fault rfl fun other => ⟨?_, ?_⟩
      · rintro ⟨⟩
        next hblocked =>
          rw [hwrite] at hblocked
          cases hblocked
          rfl
      · rintro rfl
        exact .configuration hexists hwrite
    | ok d' =>
      rw [init, hexists]
      simp only [hwrite, Bool.false_eq_true, if_false]
      refine (Orderly.success rfl).endsBy ?_
      rintro _ ⟨⟩
      next hblocked =>
        rw [hwrite] at hblocked
        cases hblocked

/-! ## The program -/

theorem endsBy_perform (i : Invocation) :
    (performBy trees d home input i).EndsBy (Escapes trees d home i.request) := by
  obtain ⟨verbose, request⟩ := i
  cases request with
  | build source output config => exact endsBy_build
  | check file json config => exact orderly_check.endsBy (by rintro fault ⟨⟩)
  | init => exact endsBy_init
  | nothing => exact Orderly.endsBy (.success rfl) (by rintro fault ⟨⟩)

/-- On all arguments, disks and inputs the program ends in order, unless the arguments are understood
and lead to a write that fails: then, and only then, it ends in the fault of that write. -/
theorem runBy_endsBy (trees : TreeReader) (d : Disk) (home : String) (input : Text.Bytes)
    (args : List String) :
    (runBy trees d home input args).EndsBy fun fault =>
      ∃ i, readArguments args = .ok i ∧ Escapes trees d home i.request fault := by
  cases hargs : readArguments args with
  | error stop =>
    rw [runBy, hargs]
    exact (orderly_stopped d stop).endsBy fun fault => by simp
  | ok i =>
    rw [runBy, hargs]
    exact (endsBy_perform i).congr fun fault => by simp

end Commands

/-! ### A file in the way -/

/-- A disk with an empty source file, and a file where a build shall write. -/
def blockedDisk : Disk where
  root := .directory [("a.js", .file []), ("out", .file [])]
  here := []

/-- A file with the name of the output directory is reported as a fault and not as an error. -/
theorem runBy_file_in_the_way :
    (runBy blankReader blockedDisk "home" [] ["build", "a.js", "--output", "out"]).ending =
        .fault ⟨.alreadyThere, "out"⟩ ∧
      ¬ (runBy blankReader blockedDisk "home" [] ["build", "a.js", "--output", "out"]).Orderly := by
  have hfault : (runBy blankReader blockedDisk "home" []
      ["build", "a.js", "--output", "out"]).ending = .fault ⟨.alreadyThere, "out"⟩ := by
    decide +kernel
  exact ⟨hfault, fun h => h.ending_ne_fault _ hfault⟩

end CustomElement.Command
