-- SUMMARY: How many parts a printed list has, and what a printed statement begins with.
import Mathlib.Algebra.Order.BigOperators.Group.List
import Mathlib.Algebra.Order.Ring.Nat
import CustomElement.Proofs.Syntax.Literal
import CustomElement.Syntax.Printer
import CustomElement.Text.Blank

/-! ## Parts of lists

A comma divides a list where no bracket of the list is open and outside string literals. Whatever is
printed from its structure is one part. Text is printed as it is: it is one part if it holds no such
comma itself, and only an operand is put in parentheses. -/

namespace CustomElement.Syntax

open Text

/-! ## Commas outside brackets -/

/-- What is open at a place of a text. -/
inductive Enclosure where
  /-- A bracket, up to the one that closes it. -/
  | bracket (closing : Char)
  /-- A string literal, up to its quote. -/
  | quotes (quote : Char)
  /-- A template; `dollar` says that a dollar sign stands before the place. -/
  | template (dollar : Bool)
  /-- A backslash in a literal or a template: the next character belongs to it. -/
  | escape
  deriving DecidableEq, Repr

/-- What a character opens. -/
def opened? (c : Char) : Option Enclosure :=
  if c = '(' then some (.bracket ')')
  else if c = '[' then some (.bracket ']')
  else if c = '\x7b' then some (.bracket '\x7d')
  else if c = '"' || c = '\'' then some (.quotes c)
  else if c = '`' then some (.template false)
  else none

/-- Does the character close a bracket? -/
def isClosing (c : Char) : Bool := c = ')' || c = ']' || c = '\x7d'

/-- What is open behind a character of code that does not close what is open. -/
def openStep (enclosures : List Enclosure) (c : Char) : Option (List Enclosure) :=
  match opened? c with
  | some e => some (e :: enclosures)
  | none => if isClosing c then none else some enclosures

/-- What is open behind a character, unless it is a bracket that closes nothing. -/
def enclosureStep : List Enclosure → Char → Option (List Enclosure)
  | [], c => openStep [] c
  | .bracket closing :: outer, c =>
    if c = closing then some outer else openStep (.bracket closing :: outer) c
  | .quotes quote :: outer, c =>
    if c = quote then some outer
    else if c = '\\' then some (.escape :: .quotes quote :: outer)
    else some (.quotes quote :: outer)
  | .template dollar :: outer, c =>
    if c = '`' then some outer
    else if c = '\\' then some (.escape :: .template false :: outer)
    else if dollar && c = '\x7b' then some (.bracket '\x7d' :: .template false :: outer)
    else some (.template (c = '$') :: outer)
  | .escape :: outer, _ => some outer

/-- What is open behind a text, and the number of commas in it that stand where nothing is open. -/
def scan : List Enclosure → List Char → Option (List Enclosure × Nat)
  | enclosures, [] => some (enclosures, 0)
  | enclosures, c :: cs =>
    match enclosureStep enclosures c with
    | none => none
    | some next =>
      (scan next cs).map (Prod.map id (· + if enclosures.isEmpty && c = ',' then 1 else 0))

/-- The number of commas outside brackets, if the brackets are balanced. -/
def commas? (text : String) : Option Nat :=
  match scan [] text.toList with
  | some ([], n) => some n
  | _ => none

/-- The number of parts that the commas outside brackets divide a text into. A blank text has
none. -/
def parts? (text : String) : Option Nat :=
  (commas? text).map fun n => if text.toList.all isBlank then 0 else n + 1

/-! ## Scanning -/

theorem commas?_eq_some_iff {text : String} {n : Nat} :
    commas? text = some n ↔ scan [] text.toList = some ([], n) := by
  unfold commas?
  constructor
  · intro h
    split at h
    · next hscan => rw [hscan, Option.some.inj h]
    · cases h
  · intro h
    rw [h]

/-- Behind one text another is scanned. -/
theorem scan_append {first middle last : List Enclosure} {cs ds : List Char} {m n : Nat}
    (hcs : scan first cs = some (middle, m)) (hds : scan middle ds = some (last, n)) :
    scan first (cs ++ ds) = some (last, m + n) := by
  induction cs generalizing first m with
  | nil =>
    cases hcs
    rw [List.nil_append, hds, Nat.zero_add]
  | cons c cs ih =>
    rw [scan] at hcs
    rw [List.cons_append, scan]
    split at hcs
    · cases hcs
    · obtain ⟨⟨rest, k⟩, hrest, hk⟩ := Option.map_eq_some_iff.mp hcs
      obtain ⟨rfl, rfl⟩ := Prod.mk.inj hk
      simp only [ih hrest, Option.map_some, Prod.map, id_eq]
      rw [Nat.add_right_comm]

theorem openStep_of_isClosing {c : Char} (h : isClosing c = true) (enclosures : List Enclosure) :
    openStep enclosures c = none := by
  have hc : (c = ')' ∨ c = ']') ∨ c = '\x7d' := by simpa [isClosing] using h
  rcases hc with (rfl | rfl) | rfl <;> rfl

theorem openStep_append {enclosures next : List Enclosure} {c : Char}
    (h : openStep enclosures c = some next) (outer : List Enclosure) :
    openStep (enclosures ++ outer) c = some (next ++ outer) := by
  unfold openStep at h ⊢
  split at h
  · cases h
    rfl
  · split_ifs at h ⊢
    cases h
    rfl

section

variable {inner next : List Enclosure} {closing : Char} (hclosing : isClosing closing = true)
  (outer : List Enclosure)

include hclosing

/-- What a character does by itself it does inside a bracket. -/
theorem enclosureStep_within {c : Char} (h : enclosureStep inner c = some next) :
    enclosureStep (inner ++ .bracket closing :: outer) c =
      some (next ++ .bracket closing :: outer) := by
  cases inner with
  | nil =>
    have hne : c ≠ closing := by
      rintro rfl
      rw [enclosureStep, openStep_of_isClosing hclosing] at h
      cases h
    rw [List.nil_append, enclosureStep, if_neg hne]
    exact openStep_append h _
  | cons e inner =>
    cases e with
    | bracket d =>
      simp only [enclosureStep, List.cons_append] at h ⊢
      split_ifs at h ⊢
      · cases h
        rfl
      · exact openStep_append h _
    | quotes quote =>
      simp only [enclosureStep, List.cons_append] at h ⊢
      split_ifs at h ⊢ <;> (cases h; rfl)
    | template dollar =>
      simp only [enclosureStep, List.cons_append] at h ⊢
      split_ifs at h ⊢ <;> (cases h; rfl)
    | escape =>
      cases h
      rfl

/-- Inside a bracket a text opens and closes what it does by itself, and no comma counts. -/
theorem scan_within {cs : List Char} {last : List Enclosure} {n : Nat}
    (h : scan inner cs = some (last, n)) :
    scan (inner ++ .bracket closing :: outer) cs = some (last ++ .bracket closing :: outer, 0) := by
  induction cs generalizing inner n with
  | nil =>
    cases h
    rfl
  | cons c cs ih =>
    rw [scan] at h ⊢
    split at h
    · cases h
    · next next hstep =>
      obtain ⟨⟨rest, k⟩, hrest, hk⟩ := Option.map_eq_some_iff.mp h
      obtain ⟨rfl, -⟩ := Prod.mk.inj hk
      have hinside : (inner ++ Enclosure.bracket closing :: outer).isEmpty = false := by simp
      simp only [enclosureStep_within hclosing outer hstep, ih hrest, hinside]
      rfl

end

/-! ## Texts with balanced brackets -/

theorem commas?_append {text other : String} {m n : Nat} (htext : commas? text = some m)
    (hother : commas? other = some n) : commas? (text ++ other) = some (m + n) := by
  rw [commas?_eq_some_iff] at htext hother ⊢
  rw [String.toList_append]
  exact scan_append htext hother

/-- A text with balanced brackets that is not blank, with a number of commas outside brackets. -/
structure HasCommas (text : String) (n : Nat) : Prop where
  commas : commas? text = some n
  solid : text.toList.all isBlank = false

namespace HasCommas

variable {text other : String} {m n : Nat}

theorem parts (h : HasCommas text n) : parts? text = some (n + 1) := by
  rw [parts?, h.commas, Option.map_some, h.solid]
  rfl

theorem append (h : HasCommas text m) (hother : commas? other = some n) :
    HasCommas (text ++ other) (m + n) where
  commas := commas?_append h.commas hother
  solid := by rw [String.toList_append, List.all_append, h.solid, Bool.false_and]

theorem spaced (h : HasCommas text n) : HasCommas (" " ++ text ++ " ") n where
  commas := by
    have hblank : commas? " " = some 0 := by decide
    simpa using commas?_append (commas?_append hblank h.commas) hblank
  solid := by simp [List.all_append, h.solid]

theorem exists_toList_eq_cons (h : HasCommas text n) : ∃ c cs, text.toList = c :: cs := by
  cases htext : text.toList with
  | nil => exact absurd h.solid (by simp [htext])
  | cons c cs => exact ⟨c, cs, rfl⟩

end HasCommas

/-- No comma counts between brackets. -/
theorem scan_brackets {opening closing : Char}
    (hopening : opened? opening = some (.bracket closing)) (hclosing : isClosing closing = true) {cs : List Char} {n : Nat}
    (h : scan [] cs = some ([], n)) :
    scan [] ([opening] ++ (cs ++ [closing])) = some ([], 0) := by
  have hopen : scan [] [opening] = some ([.bracket closing], 0) := by
    have hcomma : opening ≠ ',' := by
      rintro rfl
      cases hopening
    simp [scan, enclosureStep, openStep, hopening, hcomma]
  have hclose : scan [.bracket closing] [closing] = some ([], 0) := by
    simp [scan, enclosureStep]
  exact scan_append hopen (scan_append (scan_within hclosing [] h) hclose)

theorem commas?_parentheses {text : String} {n : Nat} (h : commas? text = some n) :
    commas? ("(" ++ text ++ ")") = some 0 := by
  rw [commas?_eq_some_iff] at h ⊢
  simpa using @scan_brackets '(' ')' rfl rfl _ _ h

theorem commas?_braces {text : String} {n : Nat} (h : commas? text = some n) :
    commas? ("\x7b" ++ text ++ "\x7d") = some 0 := by
  rw [commas?_eq_some_iff] at h ⊢
  simpa using @scan_brackets '\x7b' '\x7d' rfl rfl _ _ h

/-- What a character is printed as in a literal leaves the literal open. -/
theorem scan_escapeChar (c : Char) :
    scan [.quotes '"'] (escapeChar c) = some ([.quotes '"'], 0) := by
  have hpasses : ∀ p ∈ escapePasses, scan [.quotes '"'] p.2 = some ([.quotes '"'], 0) := by decide
  rcases escapeChar_cases c with hmem | ⟨hself, hne⟩
  · exact hpasses _ hmem
  · obtain ⟨hslash, hquote, -⟩ := of_not_mem_escapePasses hne
    simp [hself, scan, enclosureStep, hslash, hquote]

theorem scan_flatMap_escapeChar (cs : List Char) :
    scan [.quotes '"'] (cs.flatMap escapeChar) = some ([.quotes '"'], 0) := by
  induction cs with
  | nil => rfl
  | cons c cs ih =>
    rw [List.flatMap_cons]
    exact scan_append (scan_escapeChar c) ih

/-- No comma counts in a string literal. -/
theorem commas?_stringLiteral (value : String) : commas? (stringLiteral value) = some 0 := by
  have hopen : scan [] ['"'] = some ([.quotes '"'], 0) := by decide
  have hclose : scan [.quotes '"'] ['"'] = some ([], 0) := by decide
  have hcode : (stringLiteral value).toList =
      ['"'] ++ (value.toList.flatMap escapeChar ++ ['"']) := by
    simp [stringLiteral, toList_escape]
  rw [commas?_eq_some_iff, hcode]
  exact scan_append hopen (scan_append (scan_flatMap_escapeChar value.toList) hclose)

/-! ## Lists of texts -/

/-- The commas of a list are those between its texts and those of the texts. -/
theorem hasCommas_intercalate {texts : List String} {counts : List Nat}
    (h : List.Forall₂ HasCommas texts counts) (hne : texts ≠ []) :
    ∃ n, n + 1 = counts.length + counts.sum ∧ HasCommas (", ".intercalate texts) n := by
  induction h with
  | nil => exact absurd rfl hne
  | @cons text n texts counts htext htexts ih =>
    cases htexts with
    | nil => exact ⟨n, by simp [Nat.add_comm], by simpa using htext⟩
    | @cons next k rest counts hnext hrest =>
      obtain ⟨m, hm, hlist⟩ := ih (by simp)
      have hcomma : commas? ", " = some 1 := by decide
      refine ⟨n + 1 + m, ?_, ?_⟩
      · rw [List.length_cons, List.sum_cons]
        omega
      · rw [String.intercalate_cons_cons]
        exact (htext.append hcomma).append hlist.commas

/-- A list has a part for each of its texts, and one more for each comma in them. -/
theorem parts?_intercalate {texts : List String} {counts : List Nat}
    (h : List.Forall₂ HasCommas texts counts) :
    parts? (", ".intercalate texts) = some (counts.length + counts.sum) := by
  rcases eq_or_ne texts [] with rfl | hne
  · cases h
    decide
  · obtain ⟨n, hn, hlist⟩ := hasCommas_intercalate h hne
    rw [hlist.parts, hn]

theorem commas?_intercalate {texts : List String} {counts : List Nat}
    (h : List.Forall₂ HasCommas texts counts) : ∃ n, commas? (", ".intercalate texts) = some n := by
  obtain ⟨n, hn, -⟩ := Option.map_eq_some_iff.mp (parts?_intercalate h)
  exact ⟨n, hn⟩

/-! ## Expressions with balanced brackets -/

/-- The name of an identifier: one part of a list, not beginning with a brace. -/
structure IsIdentifierName (name : String) : Prop where
  hasCommas : HasCommas name 0
  noBrace : name.toList.head? ≠ some '\x7b'

mutual

/-- All names of the expression are names, and the brackets of all its raw text are balanced. -/
def Expression.IsBalanced : Expression → Prop
  | .identifier id => IsIdentifierName id.name
  | .stringLiteral .. => True
  | .self _ => True
  | .raw _ code => ∃ n, HasCommas code n
  | .object _ properties => AreBalancedProperties properties
  | .member _ object property => object.IsBalanced ∧ IsIdentifierName property.name
  | .call _ callee arguments => callee.IsBalanced ∧ AreBalanced arguments

/-- The key is a name, and the value is such an expression. -/
def Property.IsBalanced : Property → Prop
  | .mk _ key value => IsIdentifierName key.name ∧ value.IsBalanced

/-- Such expressions. -/
def AreBalanced : List Expression → Prop
  | [] => True
  | e :: es => e.IsBalanced ∧ AreBalanced es

/-- Such properties. -/
def AreBalancedProperties : List Property → Prop
  | [] => True
  | p :: ps => p.IsBalanced ∧ AreBalancedProperties ps

end

/-- The commas outside brackets in the text of an expression: only raw text has any. -/
def Expression.commas : Expression → Nat
  | .raw _ code => (commas? code).getD 0
  | _ => 0

/-- The commas outside brackets in the text of a property. -/
def Property.commas : Property → Nat
  | .mk _ _ value => value.commas

/-- In parentheses or not, an operand is one part. -/
theorem hasCommas_operand {e : Expression} (h : HasCommas e.print e.commas) :
    HasCommas (operand e.isLoose e.print) 0 := by
  cases hloose : e.isLoose with
  | true =>
    refine ⟨commas?_parentheses h.commas, ?_⟩
    simp [operand, isBlank]
  | false =>
    have hnone : e.commas = 0 := by
      cases e with
      | raw => cases hloose
      | _ => rfl
    rw [hnone] at h
    exact h

/-- What stands between the braces of an object. -/
def propertyList : List Property → String
  | [] => ""
  | p :: ps => " " ++ ", ".intercalate (printProperties (p :: ps)) ++ " "

theorem print_object (span : Option Span) (ps : List Property) :
    (Expression.object span ps).print = "\x7b" ++ propertyList ps ++ "\x7d" := by
  cases ps with
  | nil => rfl
  | cons p ps =>
    rw [Expression.print, propertyList, printProperties, ← String.toList_inj]
    simp

theorem parts?_propertyList {ps : List Property} {counts : List Nat}
    (h : List.Forall₂ HasCommas (printProperties ps) counts) :
    parts? (propertyList ps) = some (counts.length + counts.sum) := by
  cases ps with
  | nil =>
    cases h
    decide
  | cons p ps =>
    obtain ⟨n, hn, hlist⟩ := hasCommas_intercalate h (by simp [printProperties])
    rw [propertyList, hlist.spaced.parts, hn]

mutual

/-- The text of an expression has the commas of raw text only. -/
theorem hasCommas_print : ∀ e : Expression, e.IsBalanced → HasCommas e.print e.commas
  | .identifier id, h => h.hasCommas
  | .stringLiteral _ value, _ => by
    refine ⟨commas?_stringLiteral value, ?_⟩
    simp [Expression.print, stringLiteral, isBlank]
  | .self _, _ => by
    show HasCommas "this" 0
    exact ⟨by decide, by decide⟩
  | .raw _ code, h => by
    obtain ⟨n, hn⟩ := h
    rwa [Expression.print, Expression.commas, hn.commas, Option.getD_some]
  | .object span properties, h => by
    have hparts := parts?_propertyList (hasCommas_printProperties properties h)
    obtain ⟨n, hn, -⟩ := Option.map_eq_some_iff.mp hparts
    rw [print_object]
    refine ⟨commas?_braces hn, ?_⟩
    simp [isBlank]
  | .member _ object property, h => by
    have hdot : commas? "." = some 0 := by decide
    have hobject := hasCommas_operand (hasCommas_print object h.1)
    exact (hobject.append hdot).append h.2.hasCommas.commas
  | .call span callee arguments, h => by
    have hcallee := hasCommas_operand (hasCommas_print callee h.1)
    obtain ⟨n, hn⟩ := commas?_intercalate (hasCommas_prints arguments h.2)
    have hlist := hcallee.append (commas?_parentheses hn)
    have hprint : (Expression.call span callee arguments).print =
        operand callee.isLoose callee.print ++
          ("(" ++ ", ".intercalate (printExpressions arguments) ++ ")") := by
      rw [Expression.print]
      simp only [String.append_assoc]
    rwa [hprint]

/-- The text of a property has the commas of its value. -/
theorem hasCommas_printProperty : ∀ p : Property, p.IsBalanced → HasCommas p.print p.commas
  | .mk _ key value, h => by
    have hcolon : commas? ": " = some 0 := by decide
    have hvalue := hasCommas_print value h.2
    have := (h.1.hasCommas.append hcolon).append hvalue.commas
    rw [Property.print, Property.commas]
    simpa only [Nat.zero_add] using this

/-- The texts of expressions have the commas of the expressions. -/
theorem hasCommas_prints : ∀ es : List Expression, AreBalanced es →
    List.Forall₂ HasCommas (printExpressions es) (es.map Expression.commas)
  | [], _ => .nil
  | e :: es, h => .cons (hasCommas_print e h.1) (hasCommas_prints es h.2)

/-- The texts of properties have the commas of the properties. -/
theorem hasCommas_printProperties : ∀ ps : List Property, AreBalancedProperties ps →
    List.Forall₂ HasCommas (printProperties ps) (ps.map Property.commas)
  | [], _ => .nil
  | p :: ps, h => .cons (hasCommas_printProperty p h.1) (hasCommas_printProperties ps h.2)

end

/-! ## The first character of an expression -/

theorem head?_append_of_eq_some {text other : String} {c : Char} (h : text.toList.head? = some c) :
    (text ++ other).toList.head? = some c := by
  rw [String.toList_append, List.head?_append, h, Option.some_or]

/-- No operand begins with a brace. -/
theorem exists_head?_operand : ∀ e : Expression, e.IsBalanced →
    ∃ c, (operand e.isLoose e.print).toList.head? = some c ∧ c ≠ '\x7b'
  | .identifier id, h => by
    obtain ⟨c, cs, hname⟩ := h.hasCommas.exists_toList_eq_cons
    have hhead : id.name.toList.head? = some c := by rw [hname, List.head?_cons]
    refine ⟨c, hhead, ?_⟩
    rintro rfl
    exact h.noBrace hhead
  | .stringLiteral _ _, _ =>
    ⟨'"', head?_append_of_eq_some (head?_append_of_eq_some rfl), by decide⟩
  | .self _, _ => by
    show ∃ c, "this".toList.head? = some c ∧ c ≠ '\x7b'
    exact ⟨'t', by decide, by decide⟩
  | .raw _ _, _ => ⟨'(', head?_append_of_eq_some (head?_append_of_eq_some rfl), by decide⟩
  | .object _ _, _ => ⟨'(', head?_append_of_eq_some (head?_append_of_eq_some rfl), by decide⟩
  | .member _ object _, h => by
    obtain ⟨c, hobject, hc⟩ := exists_head?_operand object h.1
    exact ⟨c, head?_append_of_eq_some (head?_append_of_eq_some hobject), hc⟩
  | .call _ callee _, h => by
    obtain ⟨c, hcallee, hc⟩ := exists_head?_operand callee h.1
    refine ⟨c, ?_, hc⟩
    exact head?_append_of_eq_some (head?_append_of_eq_some (head?_append_of_eq_some hcallee))

/-- The text of an expression that is no raw text begins with a brace exactly if it is an object. -/
theorem head?_print_eq_brace_iff {e : Expression} (h : e.IsBalanced)
    (hraw : ∀ span code, e ≠ .raw span code) :
    e.print.toList.head? = some '\x7b' ↔ ∃ span properties, e = .object span properties := by
  constructor
  · intro hbrace
    cases hloose : e.isLoose with
    | true =>
      cases e with
      | object span properties => exact ⟨span, properties, rfl⟩
      | raw span code => exact absurd rfl (hraw span code)
      | _ => cases hloose
    | false =>
      obtain ⟨c, hhead, hc⟩ := exists_head?_operand e h
      rw [hloose] at hhead
      exact absurd (Option.some.inj (hhead.symm.trans hbrace)) hc
  · rintro ⟨span, properties, rfl⟩
    rw [print_object]
    exact head?_append_of_eq_some (head?_append_of_eq_some rfl)

/-! ## The parts of what is printed -/

/-- As many parts as there are texts: none of them has a comma. -/
theorem length_add_sum_eq_iff {α : Type} {count : α → Nat} {as : List α} :
    as.length + (as.map count).sum = as.length ↔ ∀ a ∈ as, count a = 0 := by
  rw [Nat.add_eq_left, List.sum_eq_zero_iff]
  simp

section

variable {span : Option Span} {place : Placement}

/-- The arguments of a call stand in parentheses behind its callee. -/
theorem print_call_parts {callee : Expression} {arguments : List Expression}
    (hcallee : callee.IsBalanced) (harguments : AreBalanced arguments) :
    ∃ head list, (Expression.call span callee arguments).print = head ++ "(" ++ list ++ ")" ∧
      commas? head = some 0 ∧
      parts? list = some (arguments.length + (arguments.map Expression.commas).sum) := by
  have hlist := parts?_intercalate (hasCommas_prints arguments harguments)
  rw [List.length_map] at hlist
  exact ⟨_, _, rfl, (hasCommas_operand (hasCommas_print callee hcallee)).commas, hlist⟩

/-- The properties of an object stand in its braces. -/
theorem print_object_parts {properties : List Property}
    (hproperties : AreBalancedProperties properties) :
    ∃ list, (Expression.object span properties).print = "\x7b" ++ list ++ "\x7d" ∧
      parts? list = some (properties.length + (properties.map Property.commas).sum) := by
  have hlist := parts?_propertyList (hasCommas_printProperties properties hproperties)
  rw [List.length_map] at hlist
  exact ⟨_, print_object span properties, hlist⟩

/-- The declarator of a variable stands between the word and the semicolon. -/
theorem print_binding_parts {kind : BindingKind} {name : Identifier} {value : Option Expression}
    (hname : IsIdentifierName name.name) (hvalue : ∀ e ∈ value, e.IsBalanced) :
    ∃ list, (Statement.binding place kind name value).print = kind.word ++ " " ++ list ++ ";" ∧
      parts? list = some (1 + (value.map Expression.commas).getD 0) := by
  cases value with
  | none => exact ⟨name.name, rfl, hname.hasCommas.parts⟩
  | some e =>
    have hequals : commas? " = " = some 0 := by decide
    have he := hasCommas_print e (hvalue e rfl)
    have hlist := (hname.hasCommas.append hequals).append he.commas
    refine ⟨name.name ++ " = " ++ e.print, ?_, ?_⟩
    · simp [Statement.print, String.append_assoc]
    · rw [hlist.parts, Option.map_some, Option.getD_some, Nat.add_comm 1]
      simp

/-- A statement begins like its expression. -/
theorem head?_print_expression {e : Expression} (h : e.IsBalanced) :
    (Statement.expression place e).print.toList.head? = e.print.toList.head? := by
  obtain ⟨c, cs, hprint⟩ := (hasCommas_print e h).exists_toList_eq_cons
  have hhead : e.print.toList.head? = some c := by rw [hprint, List.head?_cons]
  rw [Statement.print, head?_append_of_eq_some hhead, hhead]

/-- A printed list has a part for each node in it, and one more for each comma outside brackets in
raw text that is one of the nodes; so every node is one part exactly if no such text has a comma.
This goes for the arguments of a call, the properties of an object and the declarator of a variable.
The text of a statement that is an expression, but not raw text, begins with a brace exactly if the
expression is an object. -/
theorem print_parts {callee e : Expression} {arguments : List Expression}
    {properties : List Property} {kind : BindingKind} {name : Identifier}
    {value : Option Expression} (hcallee : callee.IsBalanced) (harguments : AreBalanced arguments)
    (hproperties : AreBalancedProperties properties) (hname : IsIdentifierName name.name)
    (hvalue : ∀ v ∈ value, v.IsBalanced) (he : e.IsBalanced)
    (hraw : ∀ span code, e ≠ .raw span code) :
    (∃ head list, (Expression.call span callee arguments).print = head ++ "(" ++ list ++ ")" ∧
      commas? head = some 0 ∧
      parts? list = some (arguments.length + (arguments.map Expression.commas).sum) ∧
      (parts? list = some arguments.length ↔ ∀ a ∈ arguments, a.commas = 0)) ∧
    (∃ list, (Expression.object span properties).print = "\x7b" ++ list ++ "\x7d" ∧
      parts? list = some (properties.length + (properties.map Property.commas).sum) ∧
      (parts? list = some properties.length ↔ ∀ p ∈ properties, p.commas = 0)) ∧
    (∃ list, (Statement.binding place kind name value).print = kind.word ++ " " ++ list ++ ";" ∧
      parts? list = some (1 + (value.map Expression.commas).getD 0) ∧
      (parts? list = some 1 ↔ ∀ v ∈ value, v.commas = 0)) ∧
    ((Statement.expression place e).print.toList.head? = some '\x7b' ↔
      ∃ span properties, e = .object span properties) := by
  obtain ⟨head, arguments', hcall, hhead, hparts⟩ :=
    @print_call_parts span callee arguments hcallee harguments
  obtain ⟨properties', hobject, hparts'⟩ := @print_object_parts span properties hproperties
  obtain ⟨declarators, hbinding, hdeclared⟩ :=
    @print_binding_parts place kind name value hname hvalue
  refine ⟨⟨head, arguments', hcall, hhead, hparts, ?_⟩, ⟨properties', hobject, hparts', ?_⟩,
    ⟨declarators, hbinding, hdeclared, ?_⟩, ?_⟩
  · rw [hparts, Option.some_inj, length_add_sum_eq_iff]
  · rw [hparts', Option.some_inj, length_add_sum_eq_iff]
  · rw [hdeclared, Option.some_inj]
    cases value <;> simp
  · rw [head?_print_expression he, head?_print_eq_brace_iff he hraw]

end

/-! ### A sequence as raw text -/

/-- Two expressions in a sequence, kept as text. -/
def sequence : Expression := .raw none "a, b"

theorem isBalanced_sequence : sequence.IsBalanced := ⟨1, by decide, by decide⟩

theorem isIdentifierName_letter : IsIdentifierName "f" := ⟨⟨by decide, by decide⟩, by decide⟩

/-- A call with a sequence for its argument. -/
def sequenceCall : Expression := .call none (.named "f") [sequence]

/-- A property with a sequence for its value. -/
def sequenceProperty : Property := .mk none { name := "f" } sequence

/-- An object with that property. -/
def sequenceObject : Expression := .object none [sequenceProperty]

theorem isBalanced_sequenceCall : sequenceCall.IsBalanced :=
  ⟨isIdentifierName_letter, isBalanced_sequence, trivial⟩

theorem isBalanced_sequenceObject : sequenceObject.IsBalanced :=
  ⟨⟨isIdentifierName_letter, isBalanced_sequence⟩, trivial⟩

/-- A sequence is two arguments of a call, two properties of an object and two declarators, and an
object that stands as a statement begins with a brace. -/
theorem sequence_parts :
    sequenceCall.IsBalanced ∧ sequenceCall.print = "f" ++ "(" ++ "a, b" ++ ")" ∧
      commas? "f" = some 0 ∧ parts? "a, b" = some 2 ∧ [sequence].length = 1 ∧
      sequenceObject.IsBalanced ∧ sequenceObject.print = "\x7b" ++ " f: a, b " ++ "\x7d" ∧
      parts? " f: a, b " = some 2 ∧
      (Statement.binding {} .constBinding { name := "f" } (some sequence)).print =
        "const" ++ " " ++ "f = a, b" ++ ";" ∧
      parts? "f = a, b" = some 2 ∧
      (Statement.expression {} sequenceObject).print.toList.head? = some '\x7b' := by
  refine ⟨isBalanced_sequenceCall, ?_, ?_, ?_, ?_, isBalanced_sequenceObject, ?_⟩ <;> decide +kernel

theorem print_parts_sequence :
    (Expression.named "f").IsBalanced ∧ AreBalanced [sequence] ∧
      AreBalancedProperties [sequenceProperty] ∧ IsIdentifierName "f" ∧
      (∃ head list, sequenceCall.print = head ++ "(" ++ list ++ ")" ∧ commas? head = some 0 ∧
        parts? list = some (1 + 1) ∧ (parts? list = some 1 ↔ ∀ a ∈ [sequence], a.commas = 0)) ∧
      (∃ list, sequenceObject.print = "\x7b" ++ list ++ "\x7d" ∧ parts? list = some (1 + 1) ∧
        (parts? list = some 1 ↔ ∀ p ∈ [sequenceProperty], p.commas = 0)) ∧
      (∃ list, (Statement.binding {} .constBinding { name := "f" } (some sequence)).print =
          "const" ++ " " ++ list ++ ";" ∧
        parts? list = some (1 + 1) ∧
        (parts? list = some 1 ↔ ∀ v ∈ some sequence, v.commas = 0)) ∧
      ((Statement.expression {} sequenceCall).print.toList.head? = some '\x7b' ↔
        ∃ span properties, sequenceCall = .object span properties) := by
  refine ⟨isIdentifierName_letter, ⟨isBalanced_sequence, trivial⟩, isBalanced_sequenceObject,
    isIdentifierName_letter, ?_⟩
  exact @print_parts none {} (.named "f") sequenceCall [sequence] [sequenceProperty] .constBinding
    { name := "f" } (some sequence) isIdentifierName_letter ⟨isBalanced_sequence, trivial⟩
    isBalanced_sequenceObject isIdentifierName_letter (by simpa using isBalanced_sequence)
    isBalanced_sequenceCall nofun

end CustomElement.Syntax
