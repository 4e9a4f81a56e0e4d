-- SUMMARY: The text of an element's class, line by line.
import CustomElement.Proofs.Element.Binding
import CustomElement.Proofs.Syntax.Indentation

/-! ## The lines of a class

The class of an element is printed from its structure, inside out: the statements of the constructor
are indented with the constructor, and again with the class. Indentation goes line by line, so the
text is known line by line, as long as no line end comes in with the name of the component. -/

namespace CustomElement.Syntax

/-! ## Indentation line by line -/

theorem startsLine_newline (start : Bool) (cs : List Char) :
    startsLine start (cs ++ ['\n']) = true := by
  induction cs generalizing start with
  | nil => rfl
  | cons c cs ih => exact ih (c = '\n')

/-- What stands on both sides of a line end is indented by itself. -/
theorem indent_append_newline (text other : String) :
    indent (text ++ "\n" ++ other) = indent text ++ "\n" ++ indent other := by
  apply String.toList_inj.mp
  have hnewline (start : Bool) : indentFrom start ['\n'] = ['\n'] := by simp [indentFrom]
  have hend : "\n".toList = ['\n'] := rfl
  simp only [toList_indent, String.toList_append, hend, indentFrom_append, hnewline,
    startsLine_newline]

theorem indent_intercalate (lines : List String) :
    indent ("\n".intercalate lines) = "\n".intercalate (lines.map indent) := by
  induction lines with
  | nil => rfl
  | cons line lines ih =>
    cases lines with
    | nil => simp
    | cons next rest =>
      rw [String.intercalate_cons_cons, indent_append_newline, ih]
      exact String.intercalate_cons_cons.symm

theorem indentFrom_false_of_notMem {cs : List Char} (h : '\n' ∉ cs) : indentFrom false cs = cs := by
  have hone : HasOneLine cs := by
    apply List.Pairwise.isChain
    apply List.pairwise_of_forall_mem_list
    rintro c hc d - rfl
    exact absurd hc h
  exact (indentFrom_eq_self_iff false cs).mpr ⟨hone, by simp⟩

/-- A line that is not empty is indented by two spaces. -/
theorem indent_line {line : String} (hne : line ≠ "") (h : '\n' ∉ line.toList) :
    indent line = "  " ++ line := by
  apply String.toList_inj.mp
  rw [toList_indent, String.toList_append]
  cases hline : line.toList with
  | nil => exact absurd (String.toList_eq_nil_iff.mp hline) hne
  | cons c cs =>
    rw [hline] at h
    obtain ⟨hc, hcs⟩ : '\n' ≠ c ∧ '\n' ∉ cs := by simpa using h
    simp [indentFrom, hc.symm, indentFrom_false_of_notMem hcs]

/-- A line in a block inside a block. -/
theorem indent_indent_line {line : String} (hne : line ≠ "") (h : '\n' ∉ line.toList) :
    indent (indent line) = "    " ++ line := by
  have hne' : "  " ++ line ≠ "" := by simp
  have h' : '\n' ∉ ("  " ++ line).toList := by simpa using h
  rw [indent_line hne h, indent_line hne' h', ← String.append_assoc]
  rfl

/-- Lines among lines. -/
theorem intercalate_nested (separator first last : String) {lines : List String} (h : lines ≠ []) :
    separator.intercalate [first, separator.intercalate lines, last] =
      separator.intercalate (first :: (lines ++ [last])) := by
  rw [String.intercalate_cons_cons, String.intercalate_cons_cons, String.intercalate_singleton,
    String.intercalate_cons_of_ne_nil (by simp), String.intercalate_append_of_ne_nil h (by simp),
    String.intercalate_singleton]

/-- A block on lines: its head, its parts, indented, and the closing brace. -/
theorem block_eq_intercalate {parts : List String} (head : String) (h : parts ≠ []) :
    block head parts =
      "\n".intercalate ((head ++ " \x7b") :: (parts.map indent ++ ["\x7d"])) := by
  have hne : parts.isEmpty = false := by simpa using h
  have hmap : parts.map indent ≠ [] := by simpa using h
  unfold block
  rw [hne, if_neg (by simp), String.intercalate_cons_of_ne_nil (by simp),
    String.intercalate_append_of_ne_nil hmap (by simp), String.intercalate_singleton]
  simp [String.append_assoc]

/-! ## The constructor of the base -/

/-- A class calls the constructor of the class that it extends. Its constructors have the statement
`super();` exactly if it extends another, and then in front of every statement with `this` in its
text. -/
structure ClassDeclaration.SuperFirst (c : ClassDeclaration) : Prop where
  together : ∀ k ∈ c.constructors,
    "super();" ∈ printStatements k.body ↔ c.superClass.isSome = true
  before : c.superClass.isSome = true → ∀ k ∈ c.constructors, ∀ earlier text later,
    printStatements k.body = earlier ++ text :: later → "this".toList <:+: text.toList →
      "super();" ∈ earlier

end CustomElement.Syntax

namespace CustomElement.Element

open Syntax Config

variable {s : Settings} {component className : String}

/-! ## What the class says -/

/-- The name of the class that is extended: that of the settings unless it is empty. -/
def baseName? (s : Settings) : Option String := s.baseClass.filter (· ≠ "")

/-- What stands behind the name of the class. -/
def heritage (s : Settings) : String := ((baseName? s).map (" extends " ++ ·)).getD ""

/-- The statements of the constructor. -/
def statementLines (s : Settings) (component : String) : List String :=
  (if (baseName? s).isSome then ["super();"] else []) ++
  ["const __props = \x7b\x7d;",
    "const _n = " ++ component ++ "(__props);",
    "this.attachShadow(\x7b mode: \"" ++ s.shadowMode.word ++ "\" \x7d).appendChild(_n);"]

/-- The lines of the class. -/
def classLines (s : Settings) (component className : String) : List String :=
  ["class " ++ className ++ heritage s ++ " \x7b",
    "  constructor() \x7b"] ++
  (if (baseName? s).isSome then ["    super();"] else []) ++
  ["    const __props = \x7b\x7d;",
    "    const _n = " ++ component ++ "(__props);",
    "    this.attachShadow(\x7b mode: \"" ++ s.shadowMode.word ++ "\" \x7d).appendChild(_n);",
    "  \x7d",
    "\x7d"]

theorem superClass_eq_map (s : Settings) : superClass s = (baseName? s).map .named := by
  apply Option.ext
  intro base
  rw [superClass_eq_some_iff, baseName?, Option.map_eq_some_iff]
  simp [Option.filter_eq_some_iff, and_assoc, @eq_comm _ base]

/-! ## Printing -/

theorem print_named (name : String) : (Expression.named name).print = name := by
  simp [Expression.named, Expression.print]

/-- A call with a name for its only argument. -/
theorem print_callOf_named {callee : Expression} (h : callee.isLoose = false) (name : String) :
    (callOf callee [.named name]).print = callee.print ++ "(" ++ name ++ ")" := by
  simp [callOf, Expression.print, operand, h, printExpressions, print_named]

theorem print_memberOf {object : Expression} (h : object.isLoose = false) (property : String) :
    (memberOf object property).print = object.print ++ "." ++ property := by
  simp [memberOf, Expression.print, operand, h]

theorem print_shadowRoot (s : Settings) : (shadowRoot s).print =
    "this.attachShadow(\x7b mode: \"" ++ s.shadowMode.word ++ "\" \x7d)" := by
  unfold shadowRoot
  cases s.shadowMode with
  | opened => decide
  | closed => decide

/-- The component is called with the properties. -/
theorem print_constant_component (component : String) :
    (constant nodeBinding (callOf (.named component) [.named propsBinding])).print =
      "const _n = " ++ component ++ "(__props);" := by
  unfold constant
  rw [Statement.print, print_callOf_named rfl, print_named]
  simp [BindingKind.word, nodeBinding, propsBinding, String.append_assoc]

/-- What the component returns is put into the shadow root. -/
theorem print_append (s : Settings) :
    (Statement.expression {}
      (callOf (memberOf (shadowRoot s) "appendChild") [.named nodeBinding])).print =
      "this.attachShadow(\x7b mode: \"" ++ s.shadowMode.word ++ "\" \x7d).appendChild(_n);" := by
  rw [Statement.print, print_callOf_named rfl, print_memberOf rfl, print_shadowRoot]
  simp [nodeBinding, String.append_assoc]

theorem printStatements_constructorBody (s : Settings) (component : String) :
    printStatements (constructorBody s component) = statementLines s component := by
  have hsuper : (Statement.expression {} (callOf (.named "super") [])).print = "super();" := by
    decide
  have hprops : (constant propsBinding (.object none [])).print = "const __props = \x7b\x7d;" := by
    decide
  unfold constructorBody statementLines
  rw [superClass_eq_map, Option.isSome_map]
  split
  · simp [printStatements, hsuper, hprops, print_constant_component, print_append]
  · simp [printStatements, hprops, print_constant_component, print_append]

/-! ## Lines -/

theorem statementLines_ne_nil (s : Settings) (component : String) :
    statementLines s component ≠ [] := by
  simp [statementLines]

/-- No line end stands in a statement unless it comes in with the name of the component. -/
theorem notMem_of_mem_statementLines (h : '\n' ∉ component.toList) :
    ∀ line ∈ statementLines s component, line ≠ "" ∧ '\n' ∉ line.toList := by
  have hword : '\n' ∉ s.shadowMode.word.toList := by
    cases s.shadowMode <;> decide
  intro line hline
  unfold statementLines at hline
  rcases List.mem_append.mp hline with hsuper | hline
  · split at hsuper
    · obtain rfl := List.mem_singleton.mp hsuper
      decide
    · cases hsuper
  · simp only [List.mem_cons, List.not_mem_nil, or_false] at hline
    rcases hline with rfl | rfl | rfl
    · decide
    · simp [h]
    · simp [hword]

/-- The lines of the constructor, as they are in the class. -/
theorem map_indent_constructor (h : '\n' ∉ component.toList) :
    (("constructor()" ++ " \x7b") ::
        ((statementLines s component).map indent ++ ["\x7d"])).map indent =
      "  constructor() \x7b" :: ((statementLines s component).map ("    " ++ ·) ++ ["  \x7d"]) := by
  have hhead : indent ("constructor()" ++ " \x7b") = "  constructor() \x7b" := by decide
  have hclose : indent "\x7d" = "  \x7d" := by decide
  have hstatements : ((statementLines s component).map indent).map indent =
      (statementLines s component).map ("    " ++ ·) := by
    rw [List.map_map]
    apply List.map_congr_left
    intro line hline
    obtain ⟨hne, hnewline⟩ := notMem_of_mem_statementLines h line hline
    exact indent_indent_line hne hnewline
  rw [List.map_cons, List.map_append, hstatements, hhead, List.map_singleton, hclose]

theorem classLines_eq (s : Settings) (component className : String) :
    classLines s component className =
      ("class " ++ className ++ heritage s ++ " \x7b") ::
        ("  constructor() \x7b" :: ((statementLines s component).map ("    " ++ ·) ++ ["  \x7d"]) ++
          ["\x7d"]) := by
  unfold classLines statementLines
  split
  · simp [← String.append_assoc]
  · simp [← String.append_assoc]

/-- The class is a block with the block of its constructor in it. -/
theorem print_buildClass (s : Settings) (component className : String) :
    (buildClass s component className).print =
      block ("class " ++ className ++ heritage s)
        [block "constructor()" (statementLines s component)] := by
  have hhead : "constructor(" ++ ", ".intercalate [] ++ ")" = "constructor()" := by decide
  unfold buildClass heritage
  simp only [ClassDeclaration.print, printConstructors, Constructor.print, List.map_nil, hhead,
    printStatements_constructorBody, superClass_eq_map]
  cases baseName? s with
  | none => rfl
  | some base =>
    have hoperand : operand (Expression.named base).isLoose (Expression.named base).print = base :=
      print_named base
    simp only [Option.map_some, Option.getD_some, hoperand]

/-! ## The class -/

theorem print_buildClass_eq_intercalate (h : '\n' ∉ component.toList) :
    (buildClass s component className).print =
      "\n".intercalate (classLines s component className) := by
  have hconstructor : indent (block "constructor()" (statementLines s component)) =
      "\n".intercalate ("  constructor() \x7b" ::
        ((statementLines s component).map ("    " ++ ·) ++ ["  \x7d"])) := by
    rw [block_eq_intercalate _ (statementLines_ne_nil s component), indent_intercalate,
      map_indent_constructor h]
  rw [print_buildClass, block_eq_intercalate _ (by simp), List.map_singleton, hconstructor,
    classLines_eq]
  exact intercalate_nested _ _ _ (by simp)

theorem mem_statementLines_super :
    "super();" ∈ statementLines s component ↔ (baseName? s).isSome = true := by
  constructor
  · intro hmem
    by_contra hnone
    rw [statementLines, if_neg hnone] at hmem
    simp only [List.nil_append, List.mem_cons, List.not_mem_nil, or_false] at hmem
    -- The other statements begin with another letter.
    rcases hmem with h | h | h
    · exact absurd h (by decide)
    · have hhead := congrArg (·.toList.head?) h
      simp at hhead
    · have hhead := congrArg (·.toList.head?) h
      simp at hhead
  · intro hsome
    rw [statementLines, if_pos hsome]
    exact List.mem_cons_self

/-- The constructor of the base is called in front of all the statements, so of those with `this`. -/
theorem superFirst_buildClass (s : Settings) (component className : String) :
    (buildClass s component className).SuperFirst := by
  have hextends : (buildClass s component className).superClass.isSome = (baseName? s).isSome := by
    change (superClass s).isSome = (baseName? s).isSome
    rw [superClass_eq_map, Option.isSome_map]
  have hbody : ∀ k ∈ (buildClass s component className).constructors,
      printStatements k.body = statementLines s component := by
    intro k hk
    obtain rfl := List.mem_singleton.mp hk
    exact printStatements_constructorBody s component
  refine ⟨?_, ?_⟩
  · intro k hk
    rw [hextends, hbody k hk]
    exact mem_statementLines_super
  · intro hsome k hk earlier text later hsplit hthis
    rw [hextends] at hsome
    rw [hbody k hk, statementLines, if_pos hsome, List.singleton_append] at hsplit
    cases earlier with
    | nil =>
      have htext : "super();" = text := (List.cons.inj hsplit).1
      rw [← htext] at hthis
      have hletter : 'h' ∈ "super();".toList := hthis.subset (by decide)
      exact absurd hletter (by decide)
    | cons first earlier =>
      have hfirst : "super();" = first := (List.cons.inj hsplit).1
      rw [← hfirst]
      exact List.mem_cons_self

/-- The class is printed as its lines, for every name of the class and of its base; the name of the
component must stay on its line. The class calls the constructor of its base if it has one, in front
of everything. -/
theorem buildClass_text (s : Settings) (component className : String)
    (h : '\n' ∉ component.toList) :
    (buildClass s component className).print =
      "\n".intercalate (classLines s component className) ∧
    (buildClass s component className).SuperFirst := by
  refine ⟨?_, ?_⟩
  · exact print_buildClass_eq_intercalate h
  · exact superFirst_buildClass s component className

theorem buildClass_text_counter :
    '\n' ∉ "Counter".toList ∧
    (buildClass {} "Counter" "CounterElement").print = "\n".intercalate
      ["class CounterElement extends HTMLElement \x7b",
        "  constructor() \x7b",
        "    super();",
        "    const __props = \x7b\x7d;",
        "    const _n = Counter(__props);",
        "    this.attachShadow(\x7b mode: \"open\" \x7d).appendChild(_n);",
        "  \x7d",
        "\x7d"] ∧
    (buildClass {} "Counter" "CounterElement").SuperFirst := by
  have hline : '\n' ∉ "Counter".toList := by decide
  obtain ⟨htext, hsuper⟩ := buildClass_text {} "Counter" "CounterElement" hline
  refine ⟨hline, ?_, hsuper⟩
  rw [htext]
  rfl

end CustomElement.Element
