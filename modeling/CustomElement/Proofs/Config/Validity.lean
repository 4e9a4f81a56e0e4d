-- SUMMARY: Which documents are valid settings, what they give, and what is reported of the others.
import CustomElement.Config.Reader
import CustomElement.Proofs.Json.Checked

/-! ## Valid settings

A document is valid if it is an object that has nothing but settings as keys and in which the last
value of each setting is one that the setting may have. Such a document gives these values, and the
defaults for the settings that it leaves out. Of any other object every setting with a value that it
may not have is reported, in the order of the settings, and then every key that is no setting, in
the order of the document. -/

namespace CustomElement.Config

open Json

/-! ## Settings and their values -/

/-- The settings that a document may have. -/
inductive Setting where
  | tagPrefix
  | classSuffix
  | registry
  | baseClass
  | shadowMode
  | retainDeclaration
  deriving DecidableEq, Repr

/-- The value is a string, and the string has a property. -/
def IsString (p : String → Prop) : Value → Prop
  | .string s => p s
  | _ => False

instance (p : String → Prop) [DecidablePred p] : DecidablePred (IsString p)
  | .string s => inferInstanceAs (Decidable (p s))
  | .null | .bool _ | .int _ | .real _ | .array _ | .object _ => isFalse id

/-- The truth value that a value is read as: its own, or that of a word or of a number. -/
def truth? : Value → Option Bool
  | .bool b => some b
  | .string s => boolOfWord? s
  | .int n => boolOfInt? n
  | .real x =>
    match x.whole with
    | .exact n => boolOfInt? n
    | _ => none
  | _ => none

/-- Why a value is not read as a truth value. -/
def truthRefusal : Value → ProblemKind
  | .string _ => .boolUnreadable
  | .int n => if isSmall n then .boolUnreadable else .noBool
  | .real x =>
    match x.whole with
    | .exact _ => .boolUnreadable
    | _ => .noBool
  | _ => .noBool

namespace Setting

/-- The key of a setting. -/
def name : Setting → String
  | tagPrefix => "tag_prefix"
  | classSuffix => "class_suffix"
  | registry => "registry"
  | baseClass => "base_class"
  | shadowMode => "shadow_mode"
  | retainDeclaration => "retain_declaration"

/-- The settings in order. -/
def all : List Setting :=
  [tagPrefix, classSuffix, registry, baseClass, shadowMode, retainDeclaration]

theorem mem_all (a : Setting) : a ∈ all := by
  cases a <;> decide

/-- The text has a hyphen, is in lower case and begins with a letter. It has a first character
because it has a hyphen. -/
def IsTagPrefix (s : String) : Prop :=
  ∃ hyphen : '-' ∈ s.toList,
    Text.lower s = s ∧ Text.isLetter (s.toList.head (List.ne_nil_of_mem hyphen)) = true

/-- The values that a setting may have. -/
def Accepts (v : Value) : Setting → Prop
  | tagPrefix => IsString IsTagPrefix v
  | classSuffix => IsString (· ≠ "") v
  | registry => IsString (fun _ => True) v
  | baseClass => (v matches .null) = true ∨ IsString (fun _ => True) v
  | shadowMode => IsString (fun s => s = "open" ∨ s = "closed") v
  | retainDeclaration => (truth? v).isSome = true

theorem isTagPrefix_iff {s : String} : isTagPrefix s = true ↔ IsTagPrefix s := by
  rw [isTagPrefix, IsTagPrefix]
  constructor
  · simp only [Bool.and_eq_true, List.contains_iff_mem, beq_iff_eq]
    rintro ⟨⟨hyphen, hlower⟩, hletter⟩
    refine ⟨hyphen, hlower, ?_⟩
    rwa [List.head?_eq_some_head (List.ne_nil_of_mem hyphen), Option.any_some] at hletter
  · rintro ⟨hyphen, hlower, hletter⟩
    simp only [Bool.and_eq_true, List.contains_iff_mem, beq_iff_eq]
    refine ⟨⟨hyphen, hlower⟩, ?_⟩
    rwa [List.head?_eq_some_head (List.ne_nil_of_mem hyphen), Option.any_some]

instance : DecidablePred IsTagPrefix := fun _ => decidable_of_iff _ isTagPrefix_iff

instance (v : Value) : DecidablePred (Accepts v)
  | tagPrefix => inferInstanceAs (Decidable (IsString IsTagPrefix v))
  | classSuffix => inferInstanceAs (Decidable (IsString (· ≠ "") v))
  | registry => inferInstanceAs (Decidable (IsString (fun _ => True) v))
  | baseClass => inferInstanceAs (Decidable (_ ∨ IsString (fun _ => True) v))
  | shadowMode => inferInstanceAs (Decidable (IsString (fun s => s = "open" ∨ s = "closed") v))
  | retainDeclaration => inferInstanceAs (Decidable ((truth? v).isSome = true))

/-- Why a setting may not have a value. -/
def refusal (v : Value) : Setting → ProblemKind
  | tagPrefix => if v matches .string _ then .rule tagPrefixRule else .noString
  | classSuffix => if v matches .string _ then .rule classSuffixRule else .noString
  | registry | baseClass => .noString
  | shadowMode => .noWord ["open", "closed"]
  | retainDeclaration => truthRefusal v

/-- The complaint about the last value of a setting. -/
def complaint? (fs : List (String × Value)) (a : Setting) : Option (String × ProblemKind) :=
  (find? fs a.name).bind fun v => if Accepts v a then none else some (a.name, a.refusal v)

end Setting

/-! ## Valid objects -/

/-- The fields are settings, and the last value of each is one that the setting may have. -/
structure Valid (fs : List (String × Value)) : Prop where
  known : ∀ f ∈ fs, f.1 ∈ Setting.all.map Setting.name
  accepted : ∀ (a : Setting) v, find? fs a.name = some v → a.Accepts v

/-- The last value of a setting, or the value for a setting that is left out. -/
def given (fs : List (String × Value)) (a : Setting) (default : Value) : Value :=
  (find? fs a.name).getD default

/-- The settings are the defaults but for the values that the fields give. -/
structure Overrides (fs : List (String × Value)) (s : Settings) : Prop where
  tagPrefix : given fs .tagPrefix (.string "fluxel-") = .string s.tagPrefix
  classSuffix : given fs .classSuffix (.string "Element") = .string s.classSuffix
  registry : given fs .registry (.string "customElements") = .string s.registry
  baseClass : given fs .baseClass (.string "HTMLElement") =
    (s.baseClass.map Value.string).getD .null
  shadowMode : given fs .shadowMode (.string "open") = .string s.shadowMode.word
  retainDeclaration : truth? (given fs .retainDeclaration (.bool false)) = some s.retainDeclaration

/-- The complaints about fields: about settings in their order, then about the keys that are no
settings in the order of the fields. -/
def complaints (fs : List (String × Value)) : List (String × ProblemKind) :=
  Setting.all.filterMap (Setting.complaint? fs) ++
    (fs.filter fun f => f.1 ∉ Setting.all.map Setting.name).map fun f => (f.1, .unknownField)

/-- A complaint in words. -/
def complaintLine (c : String × ProblemKind) : String :=
  (if c.1 = "" then "<root>" else c.1) ++ ": " ++ problemMessage c.2

/-- The diagnostic for a document from somewhere, about which there is something to say. -/
def refused (origin : String) (lines : List String) : Report.Diagnostic where
  subject := .configuration
  message := "Invalid configuration in " ++ origin ++ ": " ++ "; ".intercalate lines
  filename := origin
  suggestion := "Run 'fluxel init' to write a configuration with the default values"

/-- There is nothing to complain about in what is valid. -/
theorem complaints_eq_nil_iff {fs : List (String × Value)} : complaints fs = [] ↔ Valid fs := by
  have hcomplaint (a : Setting) :
      a.complaint? fs = none ↔ ∀ v, find? fs a.name = some v → a.Accepts v := by
    rw [Setting.complaint?]
    cases find? fs a.name with
    | none => simp
    | some v => simp
  simp only [complaints, List.append_eq_nil_iff, List.filterMap_eq_nil_iff, List.map_eq_nil_iff,
    List.filter_eq_nil_iff, decide_eq_true_eq, not_not, hcomplaint]
  constructor
  · rintro ⟨haccepted, hknown⟩
    exact ⟨hknown, fun a => haccepted a a.mem_all⟩
  · rintro ⟨hknown, haccepted⟩
    exact ⟨fun a _ => haccepted a, hknown⟩

/-! ## What is read of the settings -/

/-- A check gives what goes with a value that a setting may have, and refuses the other values. -/
def Checks {α : Type} (a : Setting) (read : Value → Checked α) (P : Value → α → Prop) : Prop :=
  ∀ v, (a.Accepts v ∧ ∃ x, read v = .ok x ∧ P v x) ∨ ¬ a.Accepts v ∧ read v = .fail (a.refusal v)

/-- A text is checked for a rule that is a property. -/
theorem asChecked_cases {p : String → Bool} {P : String → Prop} (hp : ∀ s, p s = true ↔ P s)
    (rule : String) (v : Value) :
    (IsString P v ∧ ∃ x, asChecked p rule v = .ok x ∧ v = .string x.1) ∨
      ¬ IsString P v ∧ asChecked p rule v =
        .fail (if v matches .string _ then .rule rule else .noString) := by
  cases v with
  | string s =>
    rw [asChecked, checked]
    split
    · next h => exact .inl ⟨(hp s).mp h, ⟨s, h⟩, rfl, rfl⟩
    · next h => exact .inr ⟨fun hP => h ((hp s).mpr hP), rfl⟩
  | _ => exact .inr ⟨id, rfl⟩

theorem checks_tagPrefix :
    Checks .tagPrefix (asChecked isTagPrefix tagPrefixRule) fun v x => v = .string x.1 :=
  asChecked_cases (fun _ => Setting.isTagPrefix_iff) _

theorem checks_classSuffix :
    Checks .classSuffix (asChecked (· != "") classSuffixRule) fun v x => v = .string x.1 :=
  asChecked_cases (fun _ => bne_iff_ne) _

theorem checks_registry : Checks .registry Value.asString fun v s => v = .string s := by
  intro v
  cases v with
  | string s => exact .inl ⟨trivial, s, rfl, rfl⟩
  | _ => exact .inr ⟨id, rfl⟩

theorem checks_baseClass : Checks .baseClass (Value.orNull Value.asString)
    fun v o => v = (o.map Value.string).getD .null := by
  intro v
  cases v with
  | null => exact .inl ⟨.inl rfl, none, rfl, rfl⟩
  | string s => exact .inl ⟨.inr trivial, some s, rfl, rfl⟩
  | _ => exact .inr ⟨by simp [Setting.Accepts, IsString], rfl⟩

theorem checks_shadowMode :
    Checks .shadowMode (Value.asWord shadowWords) fun v m => v = .string m.word := by
  intro v
  cases v with
  | string s =>
    by_cases hopen : s = "open"
    · subst hopen
      exact .inl ⟨.inl rfl, .opened, rfl, rfl⟩
    · by_cases hclosed : s = "closed"
      · subst hclosed
        exact .inl ⟨.inr rfl, .closed, rfl, rfl⟩
      · refine .inr ⟨fun h => h.elim hopen hclosed, ?_⟩
        simp [Value.asWord, shadowWords, ShadowMode.word, Ne.symm hopen, Ne.symm hclosed,
          Setting.refusal]
  | _ => exact .inr ⟨id, rfl⟩

/-- Numbers that do not fit into 64 bits are no truth values. -/
theorem isSmall_of_boolOfInt? {n : Int} {b : Bool} (h : boolOfInt? n = some b) :
    isSmall n = true := by
  rw [boolOfInt?] at h
  split at h
  · next hn => rw [hn]; decide
  · split at h
    · next hn => rw [hn]; decide
    · cases h

theorem asBool_eq (v : Value) : v.asBool =
    match truth? v with
    | some b => .ok b
    | none => .fail (truthRefusal v) := by
  cases v with
  | string s => cases h : boolOfWord? s <;> simp [Value.asBool, truth?, truthRefusal, h]
  | int n =>
    cases h : boolOfInt? n with
    | none => cases hn : isSmall n <;> simp [Value.asBool, truth?, truthRefusal, h, hn]
    | some b => simp [Value.asBool, truth?, h, isSmall_of_boolOfInt? h]
  | real x =>
    cases hx : x.whole with
    | exact n => cases h : boolOfInt? n <;> simp [Value.asBool, truth?, truthRefusal, hx, h]
    | _ => simp [Value.asBool, truth?, truthRefusal, hx]
  | _ => rfl

theorem checks_retainDeclaration :
    Checks .retainDeclaration Value.asBool fun v b => truth? v = some b := by
  intro v
  cases htruth : truth? v with
  | some b =>
    refine .inl ⟨?_, b, ?_, htruth⟩
    · rw [Setting.Accepts, htruth, Option.isSome_some]
    · rw [asBool_eq, htruth]
  | none =>
    refine .inr ⟨?_, ?_⟩
    · simp [Setting.Accepts, htruth]
    · rw [asBool_eq, htruth, Setting.refusal]

/-! ## What is read of a document -/

/-- The problem that a complaint is about. -/
def problemOf (c : String × ProblemKind) : Problem := ⟨[.field c.1], c.2⟩

theorem problemText_problemOf (c : String × ProblemKind) :
    problemText (problemOf c) = complaintLine c := by
  simp [problemText, problemOf, complaintLine, stepText]

section

variable {α : Type} {a : Setting} {read : Value → Checked α} {P : Value → α → Prop}

theorem reports_field (h : Checks a read P) (fs : List (String × Value)) (d : α) :
    (field fs a.name d read).Reports ((a.complaint? fs).toList.map problemOf) := by
  rw [field, Setting.complaint?]
  cases find? fs a.name with
  | none => rfl
  | some v =>
    simp only [Option.bind_some]
    rcases h v with ⟨haccepts, x, hx, _⟩ | ⟨hnot, hfail⟩
    · rw [if_pos haccepts, hx]
      rfl
    · rw [if_neg hnot, hfail]
      exact Checked.reports_within (Checked.reports_fail (a.refusal v))

/-- A field gives what goes with the value of the setting, if the default goes with its value. -/
theorem gives_field (h : Checks a read P) {w : Value} {d : α} (hd : P w d)
    (fs : List (String × Value)) : (field fs a.name d read).Gives (P (given fs a w)) := by
  rw [field, given]
  cases find? fs a.name with
  | none =>
    intro x hx
    cases hx
    exact hd
  | some v =>
    refine Checked.gives_within fun x hx => ?_
    rcases h v with ⟨_, y, hy, hP⟩ | ⟨_, hfail⟩
    · rw [hx] at hy
      cases hy
      exact hP
    · rw [hx] at hfail
      cases hfail

end

theorem reports_noUnknownField (fs : List (String × Value)) :
    (noUnknownField fs).Reports (unknownFields fs) := by
  rw [noUnknownField]
  cases h : unknownFields fs with
  | nil => rfl
  | cons p ps => exact ⟨rfl, List.cons_ne_nil _ _⟩

theorem unknownFields_eq (fs : List (String × Value)) :
    unknownFields fs = ((fs.filter fun f => f.1 ∉ Setting.all.map Setting.name).map
      fun f => (f.1, ProblemKind.unknownField)).map problemOf := by
  have hnames : Setting.all.map Setting.name = fieldNames := rfl
  rw [unknownFields, hnames, List.map_map]
  simp only [List.contains_eq_mem, decide_not]
  rfl

namespace Settings

/-- The complaints are reported, all of them and nothing else. -/
theorem reports_ofValue (fs : List (String × Value)) :
    (ofValue (.object fs)).Reports ((complaints fs).map problemOf) := by
  have hall : (complaints fs).map problemOf =
      (Setting.all.flatMap fun a => (a.complaint? fs).toList.map problemOf) ++
        unknownFields fs := by
    rw [complaints, List.map_append, ← unknownFields_eq, List.map_filterMap,
      List.filterMap_eq_flatMap_toList]
    simp only [Option.toList_map]
  rw [hall]
  simp only [Setting.all, List.flatMap_cons, List.flatMap_nil, List.append_nil]
  refine Checked.reports_seq (Checked.reports_map ?_) (reports_noUnknownField fs)
  -- the fields are put together from the left, and so are their problems
  simp only [← List.append_assoc]
  exact Checked.reports_seq (Checked.reports_seq (Checked.reports_seq (Checked.reports_seq
    (Checked.reports_seq (Checked.reports_map (reports_field checks_tagPrefix fs _))
      (reports_field checks_classSuffix fs _)) (reports_field checks_registry fs _))
      (reports_field checks_baseClass fs _)) (reports_field checks_shadowMode fs _))
      (reports_field checks_retainDeclaration fs _)

/-- What is read are the defaults but for the values of the fields. -/
theorem gives_ofValue (fs : List (String × Value)) :
    (ofValue (.object fs)).Gives (Overrides fs) := by
  have htag := gives_field checks_tagPrefix (w := .string "fluxel-")
    (d := ⟨_, isTagPrefix_fluxel⟩) rfl fs
  have hsuffix := gives_field checks_classSuffix (w := .string "Element")
    (d := ⟨_, by decide⟩) rfl fs
  have hregistry := gives_field checks_registry (d := "customElements") rfl fs
  have hbase := gives_field checks_baseClass (w := .string "HTMLElement")
    (d := some "HTMLElement") rfl fs
  have hmode := gives_field checks_shadowMode (w := .string "open") (d := .opened) rfl fs
  have hretain := gives_field checks_retainDeclaration (w := .bool false) (d := false) rfl fs
  refine Checked.Gives.seq (Checked.gives_map ?_) _
  refine Checked.gives_seq (Checked.gives_seq (Checked.gives_seq (Checked.gives_seq
    (Checked.gives_seq (Checked.gives_map ?_) hsuffix) hregistry) hbase) hmode) hretain
  intro tagPrefix heq classSuffix hsuffix registry hregistry baseClass hbase mode hmode retain
    hretain _
  exact ⟨htag tagPrefix heq, hsuffix, hregistry, hbase, hmode, hretain⟩

end Settings

theorem ShadowMode.ofWord?_word (m : ShadowMode) : ofWord? m.word = some m := by
  cases m <;> rfl

theorem ShadowMode.word_injective : Function.Injective ShadowMode.word := by
  intro m m' h
  have hword := congrArg ofWord? h
  rwa [ofWord?_word, ofWord?_word, Option.some.injEq] at hword

theorem stringOrNull_injective :
    Function.Injective fun o : Option String => (o.map Value.string).getD .null := by
  intro o o' h
  cases o <;> cases o' <;> simp_all

/-- Fields determine the settings. -/
theorem Overrides.eq {fs : List (String × Value)} {s s' : Settings} (h : Overrides fs s)
    (h' : Overrides fs s') : s = s' := by
  have htag := Value.string.inj (h.tagPrefix.symm.trans h'.tagPrefix)
  have hsuffix := Value.string.inj (h.classSuffix.symm.trans h'.classSuffix)
  have hregistry := Value.string.inj (h.registry.symm.trans h'.registry)
  have hbase := stringOrNull_injective (h.baseClass.symm.trans h'.baseClass)
  have hmode := ShadowMode.word_injective (Value.string.inj (h.shadowMode.symm.trans h'.shadowMode))
  have hretain := Option.some.inj (h.retainDeclaration.symm.trans h'.retainDeclaration)
  cases s
  cases s'
  subst htag hsuffix hregistry hbase hmode hretain
  rfl

/-! ## What documents give -/

theorem message_noJson (text : String) (f : Fault) :
    (SettingsFault.noJson f).message text = "<root>: Invalid JSON: " ++ f.message text.toList := rfl

theorem message_invalid (text : String) (ps : List Problem) :
    (SettingsFault.invalid ps).message text = "; ".intercalate (ps.map problemText) := rfl

namespace Settings

theorem parse_object {text : String} {fs : List (String × Value)}
    (hparse : Json.parse text.toList = .ok (.object fs)) (hvalid : Valid fs) :
    ∃ s, parse text = .ok s ∧ Overrides fs s := by
  have hreports := reports_ofValue fs
  rw [complaints_eq_nil_iff.mpr hvalid, List.map_nil] at hreports
  obtain ⟨s, hs⟩ := hreports.exists_eq_ok
  refine ⟨s, ?_, gives_ofValue fs s hs⟩
  rw [parse, hparse]
  simp only [hs]

theorem parse_object_error {text : String} {fs : List (String × Value)}
    (hparse : Json.parse text.toList = .ok (.object fs)) (hnot : ¬ Valid fs) :
    parse text = .error (.invalid ((complaints fs).map problemOf)) := by
  have hne : (complaints fs).map problemOf ≠ [] := by
    rw [Ne, List.map_eq_nil_iff, complaints_eq_nil_iff]
    exact hnot
  rw [parse, hparse]
  simp only [(reports_ofValue fs).eq_problems hne]

/-- What is no object is refused as a whole. -/
theorem parse_error {text : String}
    (hparse : ∀ fs, Json.parse text.toList ≠ .ok (.object fs)) :
    ∃ f reason, parse text = .error f ∧ f.message text = "<root>: " ++ reason := by
  cases h : Json.parse text.toList with
  | error f =>
    refine ⟨.noJson f, "Invalid JSON: " ++ f.message text.toList, ?_, ?_⟩
    · rw [parse, h]
    · have hroot : "<root>: Invalid JSON: " = "<root>: " ++ "Invalid JSON: " := by decide
      rw [message_noJson, hroot, String.append_assoc]
  | ok v =>
    cases v with
    | object fs => exact absurd h (hparse fs)
    | _ =>
      refine ⟨.invalid [⟨[], .noObject⟩], "Input should be an object", ?_, ?_⟩
      · rw [parse, h]
        rfl
      · rw [message_invalid]
        decide

end Settings

theorem diagnostic_invalid (origin text : String) (cs : List (String × ProblemKind)) :
    (SettingsFault.invalid (cs.map problemOf)).diagnostic origin text =
      refused origin (cs.map complaintLine) := by
  have hline : problemText ∘ problemOf = complaintLine := funext problemText_problemOf
  rw [SettingsFault.diagnostic, message_invalid, List.map_map, hline, refused]

/-- Every text gives the settings that it describes or is refused. A valid object gives the defaults
but for its own values. Of any other object all complaints are reported, in their order, and a text
that is no object is refused as a whole. -/
theorem readSettings_cases (text origin : String) :
    (∃ fs s, Json.parse text.toList = .ok (.object fs) ∧ Valid fs ∧
      readSettings text origin = .ok s ∧ ∀ s', Overrides fs s' ↔ s' = s) ∨
    (∃ fs, Json.parse text.toList = .ok (.object fs) ∧ ¬ Valid fs ∧
      readSettings text origin = .error (refused origin ((complaints fs).map complaintLine))) ∨
    (∃ reason, (∀ fs, Json.parse text.toList ≠ .ok (.object fs)) ∧
      readSettings text origin = .error (refused origin ["<root>: " ++ reason])) := by
  by_cases hobject : ∃ fs, Json.parse text.toList = .ok (.object fs)
  · obtain ⟨fs, hparse⟩ := hobject
    by_cases hvalid : Valid fs
    · obtain ⟨s, hs, hoverrides⟩ := Settings.parse_object hparse hvalid
      refine .inl ⟨fs, s, hparse, hvalid, ?_, fun s' => ⟨fun h => h.eq hoverrides, ?_⟩⟩
      · rw [readSettings, hs]
        rfl
      · rintro rfl
        exact hoverrides
    · refine .inr (.inl ⟨fs, hparse, hvalid, ?_⟩)
      rw [readSettings, Settings.parse_object_error hparse hvalid, ← diagnostic_invalid]
      rfl
  · have hparse := not_exists.mp hobject
    obtain ⟨f, reason, hf, hmessage⟩ := Settings.parse_error hparse
    refine .inr (.inr ⟨reason, hparse, ?_⟩)
    rw [readSettings, hf]
    simp only [Except.mapError, SettingsFault.diagnostic, hmessage]
    rfl

-- The empty prefix has no first character; the last value of a setting is the one that counts.
example : readSettings
    "\x7b\"more\": 1, \"shadow_mode\": null, \"tag_prefix\": \"a-\", \"tag_prefix\": \"\"\x7d" =
      .error (refused "<config>" ["tag_prefix: Value error, " ++ tagPrefixRule,
        "shadow_mode: Input should be 'open' or 'closed'",
        "more: Extra inputs are not permitted"]) := by decide +kernel

end CustomElement.Config
