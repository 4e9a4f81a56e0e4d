-- SUMMARY: What indentation does to text inside a printed class.
import Mathlib.Data.List.Chain
import CustomElement.Syntax.Printer

/-! ## Text inside a printed class

A class indents the lines of its constructors, and a constructor those of its statements. The lines
of text that was kept as it was written are indented as well, also in a template, so that what stands
in the class is the text itself only if no line of it but the first has a character. -/

namespace CustomElement.Syntax

open Text

/-! ## Indentation character by character -/

/-- The text with its lines indented by one step unless they are empty; `start` says that the first
of them begins with the text. -/
def indentFrom : (start : Bool) → List Char → List Char
  | _, [] => []
  | start, c :: cs =>
    (if start && c ≠ '\n' then [' ', ' '] else []) ++ c :: indentFrom (c = '\n') cs

/-- Does a line begin behind a text? -/
def startsLine : (start : Bool) → List Char → Bool
  | start, [] => start
  | _, c :: cs => startsLine (c = '\n') cs

theorem joinChars_cons_cons (separator : List Char) (c : Char) (line : List Char)
    (lines : List (List Char)) :
    joinChars separator ((c :: line) :: lines) = c :: joinChars separator (line :: lines) := by
  cases lines <;> rfl

theorem joinChars_nil_cons {separator : List Char} {lines : List (List Char)} (h : lines ≠ []) :
    joinChars separator ([] :: lines) = separator ++ joinChars separator lines := by
  cases lines with
  | nil => exact absurd rfl h
  | cons line lines => rfl

/-- Indenting the lines of a text is indenting it from its start. Without the first line, it is
indenting it from within a line. -/
theorem joinChars_map_indentLine (cs : List Char) :
    joinChars ['\n'] ((linesOf cs).map indentLine) = indentFrom true cs ∧
      ∀ line lines, linesOf cs = line :: lines →
        joinChars ['\n'] (line :: lines.map indentLine) = indentFrom false cs := by
  induction cs with
  | nil =>
    refine ⟨rfl, fun line lines h => ?_⟩
    cases h
    rfl
  | cons c cs ih =>
    obtain ⟨hstart, hwithin⟩ := ih
    have hne : (linesOf cs).map indentLine ≠ [] := by simpa using linesOf_ne_nil cs
    by_cases hc : c = '\n'
    · have hlines : linesOf (c :: cs) = [] :: linesOf cs := by rw [linesOf, if_pos hc]
      have hjoin : joinChars ['\n'] ([] :: (linesOf cs).map indentLine) =
          '\n' :: indentFrom true cs := by
        rw [joinChars_nil_cons hne, hstart]
        rfl
      subst hc
      refine ⟨?_, fun line lines h => ?_⟩
      · rw [hlines]
        exact hjoin
      · rw [hlines] at h
        cases h
        exact hjoin
    · obtain ⟨line, lines, hcs⟩ := List.exists_cons_of_ne_nil (linesOf_ne_nil cs)
      have hlines : linesOf (c :: cs) = (c :: line) :: lines := by
        rw [linesOf, if_neg hc, hcs]
      have hrest := hwithin line lines hcs
      refine ⟨?_, fun first others h => ?_⟩
      · rw [hlines, List.map_cons, indentLine, if_neg (by simp), joinChars_cons_cons,
          joinChars_cons_cons, joinChars_cons_cons, hrest]
        simp [indentFrom, hc]
      · rw [hlines] at h
        cases h
        rw [joinChars_cons_cons, hrest]
        simp [indentFrom, hc]

theorem toList_indent (code : String) : (indent code).toList = indentFrom true code.toList := by
  rw [indent, String.toList_ofList]
  exact (joinChars_map_indentLine code.toList).1

theorem indentFrom_append (start : Bool) (cs ds : List Char) :
    indentFrom start (cs ++ ds) = indentFrom start cs ++ indentFrom (startsLine start cs) ds := by
  induction cs generalizing start with
  | nil => rfl
  | cons c cs ih => simp [indentFrom, startsLine, ih]

/-- The first line may be indented or not; what follows is the same. -/
theorem indentFrom_false_suffix (start : Bool) (cs : List Char) :
    indentFrom false cs <:+ indentFrom start cs := by
  cases cs with
  | nil => exact List.suffix_refl _
  | cons c cs => exact ⟨_, rfl⟩

/-- What stands somewhere in a text stands in the indented text with its lines but the first
indented. -/
theorem indentFrom_infix {cs text : List Char} (h : cs <:+: text) (start : Bool) :
    indentFrom false cs <:+: indentFrom start text := by
  obtain ⟨before, after, rfl⟩ := h
  rw [indentFrom_append, indentFrom_append]
  exact (indentFrom_false_suffix _ cs).isInfix.trans
    ((List.suffix_append _ _).isInfix.trans (List.prefix_append _ _).isInfix)

/-- The text some steps to the right: indented so often without its first line. -/
def shifted : (steps : Nat) → List Char → List Char
  | 0, cs => cs
  | steps + 1, cs => indentFrom false (shifted steps cs)

theorem shifted_infix_indent {steps : Nat} {cs : List Char} {code : String}
    (h : shifted steps cs <:+: code.toList) :
    shifted (steps + 1) cs <:+: (indent code).toList := by
  rw [toList_indent]
  exact indentFrom_infix h true

/-! ## Text that stays as it is -/

/-- No line of the text but the first has a character: behind a line end stand line ends only. -/
def HasOneLine (cs : List Char) : Prop := cs.IsChain fun c d => c = '\n' → d = '\n'

/-- Indentation adds characters and takes none away. -/
theorem sublist_indentFrom (start : Bool) (cs : List Char) : cs.Sublist (indentFrom start cs) := by
  induction cs generalizing start with
  | nil => exact List.Sublist.refl _
  | cons c cs ih => exact ((ih (c = '\n')).cons_cons c).trans (List.sublist_append_right _ _)

theorem sublist_shifted (steps : Nat) (cs : List Char) : cs.Sublist (shifted steps cs) := by
  induction steps with
  | zero => exact List.Sublist.refl _
  | succ steps ih => exact ih.trans (sublist_indentFrom false _)

theorem indentFrom_eq_self_iff (start : Bool) (cs : List Char) :
    indentFrom start cs = cs ↔ HasOneLine cs ∧ ∀ c ∈ cs.head?, start = true → c = '\n' := by
  induction cs generalizing start with
  | nil => simp [indentFrom, HasOneLine]
  | cons c cs ih =>
    by_cases hindented : (start && decide (c ≠ '\n')) = true
    · have hlonger : (indentFrom start (c :: cs)).length ≠ (c :: cs).length := by
        have := (sublist_indentFrom (c = '\n') cs).length_le
        rw [indentFrom, if_pos hindented]
        simp only [List.length_append, List.length_cons, List.length_nil]
        omega
      refine iff_of_false (fun h => hlonger (congrArg List.length h)) ?_
      rintro ⟨-, hhead⟩
      obtain ⟨hstart, hc⟩ : start = true ∧ c ≠ '\n' := by simpa using hindented
      exact hc (hhead c rfl hstart)
    · have hplain : indentFrom start (c :: cs) = c :: indentFrom (c = '\n') cs := by
        rw [indentFrom, if_neg hindented, List.nil_append]
      have hhead : ∀ d ∈ (c :: cs).head?, start = true → d = '\n' := by
        rintro d ⟨⟩ hstart
        by_contra hc
        exact hindented (by simp [hstart, hc])
      rw [hplain, List.cons.injEq, ih, HasOneLine, HasOneLine, List.isChain_cons]
      simp only [decide_eq_true_eq, true_and]
      exact ⟨fun ⟨hcs, hnext⟩ => ⟨⟨hnext, hcs⟩, hhead⟩, fun ⟨⟨hnext, hcs⟩, _⟩ => ⟨hcs, hnext⟩⟩

/-- A text that is moved to the right is still itself only if no line of it but the first has a
character. -/
theorem shifted_eq_self_iff (steps : Nat) (cs : List Char) :
    shifted (steps + 1) cs = cs ↔ HasOneLine cs := by
  have hself : indentFrom false cs = cs ↔ HasOneLine cs := by
    simp [indentFrom_eq_self_iff]
  constructor
  · intro h
    have hless : (shifted steps cs).Sublist cs := by
      have := sublist_indentFrom false (shifted steps cs)
      rwa [← shifted, h] at this
    have hsteps : shifted steps cs = cs := hless.antisymm (sublist_shifted steps cs)
    rw [shifted, hsteps] at h
    exact hself.mp h
  · intro h
    induction steps with
    | zero => exact hself.mpr h
    | succ steps ih => rw [shifted, ih, hself.mpr h]

/-! ## Blocks and classes -/

theorem infix_intercalate {separator text : String} {texts : List String} (h : text ∈ texts) :
    text.toList <:+: (separator.intercalate texts).toList := by
  induction texts with
  | nil => cases h
  | cons first rest ih =>
    cases rest with
    | nil =>
      have hfirst : text = separator.intercalate [first] := by
        rw [String.intercalate_singleton, List.mem_singleton.mp h]
      exact hfirst ▸ List.infix_refl _
    | cons second rest =>
      rw [String.intercalate_cons_cons, String.toList_append, String.toList_append]
      rcases List.mem_cons.mp h with rfl | h
      · exact ((List.prefix_append _ _).trans (List.prefix_append _ _)).isInfix
      · exact (ih h).trans (List.suffix_append _ _).isInfix

/-- A block has each of its parts, indented. -/
theorem indent_infix_block {head part : String} {parts : List String} (h : part ∈ parts) :
    (indent part).toList <:+: (block head parts).toList := by
  have hne : parts.isEmpty = false := by
    cases parts with
    | nil => cases h
    | cons => rfl
  have hlist : (indent part).toList <:+: ("\n".intercalate (parts.map indent)).toList :=
    infix_intercalate (List.mem_map_of_mem h)
  rw [block, hne, if_neg (by simp), String.toList_append, String.toList_append]
  exact (hlist.trans (List.suffix_append _ _).isInfix).trans (List.prefix_append _ _).isInfix

theorem print_mem_printStatements {s : Statement} {body : List Statement} (h : s ∈ body) :
    s.print ∈ printStatements body := by
  induction body with
  | nil => cases h
  | cons t body ih =>
    rw [printStatements]
    rcases List.mem_cons.mp h with rfl | h
    · exact List.mem_cons_self
    · exact List.mem_cons_of_mem _ (ih h)

theorem print_mem_printConstructors {c : Constructor} {cs : List Constructor} (h : c ∈ cs) :
    c.print ∈ printConstructors cs := by
  induction cs with
  | nil => cases h
  | cons d cs ih =>
    rw [printConstructors]
    rcases List.mem_cons.mp h with rfl | h
    · exact List.mem_cons_self
    · exact List.mem_cons_of_mem _ (ih h)

/-- The body of a function stands in its text. -/
theorem body_infix_print (f : Function) : f.body.toList <:+: f.print.toList := by
  rw [Function.print, String.toList_append, String.toList_append]
  exact (List.suffix_append _ _).isInfix.trans (List.prefix_append _ _).isInfix

/-- Text that was kept as it was written stands in a statement, so many steps from its margin: raw
code, the body of a function, and what stands in a constructor of a class. -/
inductive Statement.Keeps : Statement → (steps : Nat) → (text : String) → Prop
  | raw {place : Placement} {code : String} : Keeps (.raw place code) 0 code
  | function {f : Function} : Keeps (.function f) 0 f.body
  | classDeclaration {span : Option Span} {parameters : List Identifier} {body : List Statement}
      {place : Placement} {name : Identifier} {superClass : Option Expression}
      {constructors : List Constructor} {s : Statement} {steps : Nat} {text : String}
      (hconstructor : .mk span parameters body ∈ constructors) (hs : s ∈ body)
      (h : Keeps s steps text) :
      Keeps (.classDeclaration (.mk place name superClass constructors)) (steps + 2) text

section

variable {span : Option Span} {parameters : List Identifier} {body : List Statement}
  {place : Placement} {name : Identifier} {superClass : Option Expression}
  {constructors : List Constructor} {s : Statement} {steps : Nat} {text : String}

/-- What stands in the text of a statement stands in a class around it two steps to the right. -/
theorem shifted_infix_print_class (hconstructor : .mk span parameters body ∈ constructors)
    (hs : s ∈ body) (h : shifted steps text.toList <:+: s.print.toList) :
    shifted (steps + 2) text.toList <:+:
      (ClassDeclaration.mk place name superClass constructors).print.toList := by
  have hbody : shifted (steps + 1) text.toList <:+:
      (Constructor.mk span parameters body).print.toList :=
    (shifted_infix_indent h).trans (indent_infix_block (print_mem_printStatements hs))
  exact (shifted_infix_indent hbody).trans
    (indent_infix_block (print_mem_printConstructors hconstructor))

/-- A statement has the text that it keeps, moved to the right. -/
theorem shifted_infix_print (h : s.Keeps steps text) :
    shifted steps text.toList <:+: s.print.toList := by
  induction h with
  | raw => exact List.infix_refl _
  | function => exact body_infix_print _
  | classDeclaration hconstructor hs _ ih =>
    rw [Statement.print]
    exact shifted_infix_print_class hconstructor hs ih

/-- In the text of a class stands what the statements of its constructors keep, two steps further to
the right: raw statements, the bodies of functions, and the same in the classes among them. It
stands there as it was written if no line of it but the first has a character, and if another line
has one, then what was moved is not what was written. -/
theorem print_class_keeps (hconstructor : .mk span parameters body ∈ constructors) (hs : s ∈ body)
    (h : s.Keeps steps text) :
    shifted (steps + 2) text.toList <:+:
        (ClassDeclaration.mk place name superClass constructors).print.toList ∧
      (HasOneLine text.toList → text.toList <:+:
        (ClassDeclaration.mk place name superClass constructors).print.toList) ∧
      (shifted (steps + 2) text.toList = text.toList ↔ HasOneLine text.toList) := by
  have hclass : shifted (steps + 2) text.toList <:+:
      (ClassDeclaration.mk place name superClass constructors).print.toList :=
    shifted_infix_print_class hconstructor hs (shifted_infix_print h)
  have hsame := shifted_eq_self_iff (steps + 1) text.toList
  refine ⟨hclass, fun hline => ?_, hsame⟩
  rwa [hsame.mpr hline] at hclass

end

/-! ### A template over two lines -/

/-- A statement with a template over two lines. -/
def templateCode : String := "f(`a\nb`);"

/-- A function with a template over two lines. -/
def templateFunction : Function := { name := some { name := "g" }, body := "return `a\nb`" }

/-- The constructor that both stand in. -/
def templateConstructor : Constructor :=
  .mk none [] [.raw {} templateCode, .function templateFunction]

/-- The class around it. -/
def templateClass : ClassDeclaration := .mk {} { name := "A" } none [templateConstructor]

/-- The second line of a template is indented with the class that the template stands in, and so the
template is another one. -/
theorem template_moves :
    ¬ templateCode.toList <:+: templateClass.print.toList ∧
      ¬ templateFunction.body.toList <:+: templateClass.print.toList ∧
      "f(`a\n    b`);".toList <:+: templateClass.print.toList := by
  decide +kernel

theorem print_class_keeps_template :
    templateConstructor ∈ [templateConstructor] ∧
      (shifted 2 templateCode.toList <:+: templateClass.print.toList ∧
        (HasOneLine templateCode.toList → templateCode.toList <:+: templateClass.print.toList) ∧
        (shifted 2 templateCode.toList = templateCode.toList ↔ HasOneLine templateCode.toList)) ∧
      shifted 2 templateFunction.body.toList <:+: templateClass.print.toList := by
  have hmem : templateConstructor ∈ [templateConstructor] := List.mem_singleton_self _
  have hraw : Statement.raw {} templateCode ∈ [.raw {} templateCode, .function templateFunction] :=
    List.mem_cons_self
  have hfunction : Statement.function templateFunction ∈
      [.raw {} templateCode, .function templateFunction] := by simp
  exact ⟨hmem, print_class_keeps hmem hraw .raw, (print_class_keeps hmem hfunction .function).1⟩

end CustomElement.Syntax
