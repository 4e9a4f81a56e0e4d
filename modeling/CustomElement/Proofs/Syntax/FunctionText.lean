-- SUMMARY: A function that was read prints as its parts, exactly if its brackets are in place.
import Mathlib.Data.List.Basic
import CustomElement.Proofs.Syntax.Spelling

/-! ## Functions, part by part

The reader takes a function apart by the kinds of the nodes below it, and the printer puts it
together again in the order of the source. Names, types and words go through as they are; of the
parameters and of the body only what stands inside the brackets is kept, so these two come back
whole where a bracket of the right sort stands at either end. -/

namespace CustomElement.Syntax

open Parsing Text Grammar

/-! ## Ends -/

/-- A text stands between two characters. -/
def Bracketed (opening closing : Char) (text : String) : Prop :=
  ∃ inner : List Char, text.toList = opening :: inner ++ [closing]

/-- A text without its first and its last character. -/
def withoutEnds (text : String) : String :=
  String.ofList ((text.toList.take (text.length - 1)).drop 1)

/-- A text with other characters for its ends. -/
def withEnds (opening closing : Char) (text : String) : String :=
  String.ofList (opening :: (withoutEnds text).toList ++ [closing])

section Ends

variable {opening closing : Char} {text : String}

/-- New ends leave a text as it is exactly if these were its ends. -/
theorem withEnds_eq_self_iff :
    withEnds opening closing text = text ↔ Bracketed opening closing text := by
  constructor
  · intro h
    exact ⟨_, (congrArg String.toList h.symm).trans String.toList_ofList⟩
  · rintro ⟨inner, h⟩
    have hlength : text.length = inner.length + 2 := by
      rw [← String.length_toList, h]
      simp
    refine String.toList_inj.mp ?_
    simp [withEnds, withoutEnds, h, hlength]

/-- New ends never make a text shorter. -/
theorem length_le_withEnds (opening closing : Char) (text : String) :
    text.length ≤ (withEnds opening closing text).length := by
  simp only [withEnds, withoutEnds, String.length_ofList, String.toList_ofList, List.length_append,
    List.length_cons, List.length_drop, List.length_take, String.length_toList, List.length_nil]
  omega

end Ends

/-- Texts with something between them are told apart one by one if none of them is shorter. -/
theorem append_inj_of_length_le {before between p q p' q' : String} (hp : p.length ≤ p'.length)
    (hq : q.length ≤ q'.length) :
    before ++ p' ++ between ++ q' = before ++ p ++ between ++ q ↔ p' = p ∧ q' = q := by
  constructor
  · intro h
    have hlength := congrArg String.length h
    simp only [String.length_append] at hlength
    have hlist := congrArg String.toList h
    simp only [String.toList_append, List.append_assoc, List.append_cancel_left_eq] at hlist
    obtain ⟨hfirst, hrest⟩ := List.append_inj hlist (by simp only [String.length_toList]; omega)
    exact ⟨String.toList_inj.mp hfirst, String.toList_inj.mp (List.append_cancel_left hrest)⟩
  · rintro ⟨rfl, rfl⟩
    rfl

/-! ## Nodes over stretches of a source -/

/-- The node covers a stretch of the source, by its bytes. -/
def StandsOver (source : List Char) (n : Node) (text : String) : Prop :=
  ∃ before after, source = before ++ text.toList ++ after ∧ n.start.byte = byteLength before ∧
    n.stop.byte = byteLength (before ++ text.toList)

namespace SourceText

variable {source : List Char} {n : Node} {text : String}

/-- A node is between as many characters as its bytes say, whatever they are. -/
theorem start_stop_of_standsOver {before after : List Char}
    (hsource : source = before ++ text.toList ++ after) (hstart : n.start.byte = byteLength before)
    (hstop : n.stop.byte = byteLength (before ++ text.toList)) :
    (ofChars source).start n = before.length ∧
      (ofChars source).stop n = before.length + text.length := by
  subst hsource
  constructor
  · rw [start, hstart, ofChars, List.append_assoc]
    exact Offsets.char_byteLength _ _
  · rw [stop, hstop, ofChars, ← String.length_toList, ← List.length_append]
    exact Offsets.char_byteLength _ _

/-- The text of a node is the stretch that it covers. -/
theorem text_of_standsOver (h : StandsOver source n text) : (ofChars source).text n = text := by
  obtain ⟨before, after, hsource, hstart, hstop⟩ := h
  obtain ⟨hfirst, hlast⟩ := start_stop_of_standsOver hsource hstart hstop
  rw [SourceText.text, hfirst, hlast, ofChars, between, hsource, ← String.length_toList,
    ← List.length_append, List.take_left', List.drop_left', String.ofList_toList]
  · rfl
  · rfl

/-- What is kept of a node in brackets is that stretch without its ends. -/
theorem inner_of_standsOver (h : StandsOver source n text) :
    (ofChars source).inner n = withoutEnds text := by
  obtain ⟨before, after, hsource, hstart, hstop⟩ := h
  obtain ⟨hfirst, hlast⟩ := start_stop_of_standsOver hsource hstart hstop
  rw [inner, hfirst, hlast, ofChars, between, hsource, withoutEnds]
  have hlength := String.length_toList (s := text)
  rcases Nat.eq_zero_or_pos text.length with hempty | hpos
  · -- nothing stands between one offset and a smaller one
    have hnone : ∀ cs : List Char, (cs.take (before.length - 1)).drop (before.length + 1) = [] :=
      fun cs => List.drop_eq_nil_of_le (by rw [List.length_take]; omega)
    simp [hempty, hnone]
  · have htake : (before ++ text.toList ++ after).take (before.length + text.length - 1) =
        before ++ text.toList.take (text.length - 1) := by
      rw [List.append_assoc, Nat.add_sub_assoc hpos, List.take_length_add_append,
        List.take_append_of_le_length (by omega)]
    rw [htake, List.drop_length_add_append]

end SourceText

/-! ## Parts -/

/-- The parts of a function. -/
inductive FunctionPart where
  | asyncWord
  | functionWord
  | star
  | name
  | typeParameters
  | parameters
  | returnType
  | body
  deriving DecidableEq, Repr

namespace FunctionPart

/-- The parts in the order of the source. -/
def all : List FunctionPart :=
  [asyncWord, functionWord, star, name, typeParameters, parameters, returnType, body]

/-- The kinds of nodes that can be the part. -/
def kinds : FunctionPart → List Kind
  | asyncWord => [.terminal (.text "async")]
  | functionWord => [.terminal (.text "function")]
  | star => [.terminal (.text "*")]
  | name => [.terminal (.lexeme .identifier), .role .identifier]
  | typeParameters => [.phrase .typeParameters]
  | parameters => [.phrase .formalParameters]
  | returnType => [.phrase .typeAscription, .phrase .assertsAscription,
      .phrase .typePredicateAscription]
  | body => [.phrase .statementBlock]

theorem mem_all (p : FunctionPart) : p ∈ all := by
  cases p <;> decide

/-- No kind is that of two parts. -/
theorem eq_of_mem_kinds {p q : FunctionPart} {k : Kind} (hp : k ∈ p.kinds) (hq : k ∈ q.kinds) :
    p = q := by
  have h : ∀ p ∈ all, ∀ q ∈ all, ∀ k ∈ p.kinds, k ∈ q.kinds → p = q := by decide
  exact h p (mem_all p) q (mem_all q) k hp hq

/-- No part is trivia. -/
theorem isTrivia_of_mem_kinds {p : FunctionPart} {n : Node} (h : n.kind ∈ p.kinds) :
    isTrivia n = false := by
  cases p <;> grind [kinds, isTrivia]

end FunctionPart

/-- Which parts a function has, with their texts. -/
abbrev FunctionTexts := FunctionPart → Option String

namespace FunctionTexts

/-- The parts that are there. -/
def present (texts : FunctionTexts) : List (FunctionPart × String) :=
  FunctionPart.all.filterMap fun p => (texts p).map fun t => (p, t)

/-- The text of a part; a part that is not there has none. -/
def text (texts : FunctionTexts) (p : FunctionPart) : String := (texts p).getD ""

/-- A word that is written where a part is there. -/
def word (texts : FunctionTexts) (p : FunctionPart) (w : String) : String :=
  if (texts p).isSome then w else ""

/-- The parts before the parameters, with single spaces behind `async` and before the name. -/
def head (texts : FunctionTexts) : String :=
  texts.word .asyncWord "async " ++ "function" ++ texts.word .star "*" ++ " " ++ texts.text .name ++
    texts.text .typeParameters

/-- All parts one behind the other, with a space before the body. -/
def joined (texts : FunctionTexts) : String :=
  texts.head ++ texts.text .parameters ++ (texts.text .returnType ++ " ") ++ texts.text .body

theorem mem_present {texts : FunctionTexts} {p : FunctionPart} {t : String} :
    (p, t) ∈ texts.present ↔ texts p = some t := by
  simp only [present, List.mem_filterMap, Option.map_eq_some_iff, Prod.mk.injEq]
  constructor
  · rintro ⟨q, _, u, hu, rfl, rfl⟩
    exact hu
  · intro h
    exact ⟨p, p.mem_all, t, h, rfl, rfl⟩

/-- Looking a part up among those that are there finds its text. -/
theorem find?_present (texts : FunctionTexts) (p : FunctionPart) :
    (texts.present.find? fun q => q.1 == p).map Prod.snd = texts p := by
  cases hfind : texts.present.find? fun q => q.1 == p with
  | none =>
    rw [List.find?_eq_none] at hfind
    cases hp : texts p with
    | none => rfl
    | some t => exact absurd (beq_self_eq_true p) (hfind (p, t) (mem_present.mpr hp))
  | some found =>
    obtain ⟨q, t⟩ := found
    obtain rfl : q = p := by simpa using List.find?_some hfind
    exact (mem_present.mp (List.mem_of_find?_eq_some hfind)).symm

end FunctionTexts

/-- A node is of a kind of the part and covers its text. -/
structure Fits (source : List Char) (part : FunctionPart × String) (n : Node) : Prop where
  kind : n.kind ∈ part.1.kinds
  covers : StandsOver source n part.2

/-- The nodes below a function that are no trivia are its parts, each over its text. -/
def HasParts (source : List Char) (n : Node) (texts : FunctionTexts) : Prop :=
  List.Forall₂ (Fits source) texts.present (n.children.filter fun c => !isTrivia c)

section Search

variable {source : List Char} {p : FunctionPart} {test : Node → Bool} {read : Node → String}
  {made : String → String}

/-- Among nodes that fit parts, the first one of a part's kinds fits the first such part. -/
theorem map_find?_of_fits (htest : ∀ c, test c = true ↔ c.kind ∈ p.kinds)
    (hread : ∀ c t, StandsOver source c t → read c = made t)
    {parts : List (FunctionPart × String)} {children : List Node}
    (h : List.Forall₂ (Fits source) parts children) :
    (children.find? test).map read = ((parts.find? fun q => q.1 == p).map Prod.snd).map made := by
  induction h with
  | nil => rfl
  | @cons part child parts children hfits _ ih =>
    by_cases hpart : part.1 = p
    · have hchild : test child = true := (htest child).mpr (hpart ▸ hfits.kind)
      simp [hchild, hpart, hread child part.2 hfits.covers]
    · have hchild : test child = false := by
        by_contra hne
        have hmem : child.kind ∈ p.kinds := (htest child).mp (by simpa using hne)
        exact hpart (FunctionPart.eq_of_mem_kinds hfits.kind hmem)
      simpa [List.find?_cons, hchild, hpart] using ih

/-- What is read of the first node of a part's kinds is made of the text of the part. -/
theorem HasParts.map_find? {n : Node} {texts : FunctionTexts} (h : HasParts source n texts)
    (htest : ∀ c, test c = true ↔ c.kind ∈ p.kinds)
    (hread : ∀ c t, StandsOver source c t → read c = made t) :
    (n.children.find? test).map read = (texts p).map made := by
  have hfilter : n.children.find? test = (n.children.filter fun c => !isTrivia c).find? test := by
    rw [List.find?_filter]
    congr 1
    funext c
    cases hc : test c with
    | false => simp
    | true => simp [FunctionPart.isTrivia_of_mem_kinds ((htest c).mp hc)]
  rw [hfilter, map_find?_of_fits htest hread h, texts.find?_present p]

end Search

/-! ## What is read

The reader's own tests of nodes are those of the parts. -/

theorem isText_iff {p : FunctionPart} {w : String} (h : p.kinds = [.terminal (.text w)])
    (c : Node) : isText w c = true ↔ c.kind ∈ p.kinds := by
  simp [isText, h]

theorem isName_iff (c : Node) : isName c = true ↔ c.kind ∈ FunctionPart.name.kinds := by
  grind [isName, FunctionPart.kinds]

theorem isReturnType_iff (c : Node) :
    isReturnType c = true ↔ c.kind ∈ FunctionPart.returnType.kinds := by
  grind [isReturnType, FunctionPart.kinds]

theorem isPhrase_iff {p : FunctionPart} {q : Phrase} (h : p.kinds = [.phrase q]) (c : Node) :
    (c.kind == .phrase q) = true ↔ c.kind ∈ p.kinds := by
  simp [h]

namespace HasParts

variable {source : List Char} {n : Node} {texts : FunctionTexts} {p : FunctionPart}
  {test : Node → Bool}

theorem map_text (h : HasParts source n texts) (htest : ∀ c, test c = true ↔ c.kind ∈ p.kinds) :
    (n.children.find? test).map (SourceText.ofChars source).text = texts p := by
  have hread : ∀ c t, StandsOver source c t → (SourceText.ofChars source).text c = id t :=
    fun _ _ => SourceText.text_of_standsOver
  rw [h.map_find? htest hread, Option.map_id]
  rfl

theorem getD_inner (h : HasParts source n texts) (htest : ∀ c, test c = true ↔ c.kind ∈ p.kinds) :
    ((n.children.find? test).map (SourceText.ofChars source).inner).getD "" =
      withoutEnds (texts.text p) := by
  rw [h.map_find? htest fun _ _ => SourceText.inner_of_standsOver, FunctionTexts.text]
  cases texts p <;> rfl

theorem isSome_word (h : HasParts source n texts) {w : String}
    (hp : p.kinds = [.terminal (.text w)]) :
    (n.children.find? (isText w)).isSome = (texts p).isSome := by
  rw [← h.map_text (isText_iff hp), Option.isSome_map]

end HasParts

/-! ## What is printed -/

/-- Parameters and body are printed with brackets for ends, whatever they had. -/
theorem print_function {source : List Char} {n : Node} {texts : FunctionTexts}
    (h : HasParts source n texts) :
    ((SourceText.ofChars source).function n).print =
      texts.head ++ withEnds '(' ')' (texts.text .parameters) ++ (texts.text .returnType ++ " ") ++
        withEnds '\x7b' '\x7d' (texts.text .body) := by
  have hname : (((n.children.find? isName).map (SourceText.ofChars source).identifier).map
      Identifier.name).getD "" = texts.text .name := by
    rw [FunctionTexts.text, ← h.map_text isName_iff, Option.map_map]
    rfl
  have hasync := h.isSome_word (p := .asyncWord) rfl
  have hstar := h.isSome_word (p := .star) rfl
  have htypes := h.map_text (p := .typeParameters) (isPhrase_iff rfl)
  have hparameters := h.getD_inner (p := .parameters) (isPhrase_iff rfl)
  have hreturns := h.map_text (p := .returnType) isReturnType_iff
  have hbody := h.getD_inner (p := .body) (isPhrase_iff rfl)
  simp only [Function.print, SourceText.function, hname, hasync, hstar, htypes, hparameters,
    hreturns, hbody]
  refine String.toList_inj.mp ?_
  simp [FunctionTexts.head, FunctionTexts.word, FunctionTexts.text, withEnds]

/-- A function prints as its parts exactly if parameters and body have brackets for ends. -/
theorem print_function_eq_iff {source : List Char} {n : Node} {texts : FunctionTexts}
    (h : HasParts source n texts) :
    ((SourceText.ofChars source).function n).print = texts.joined ↔
      Bracketed '(' ')' (texts.text .parameters) ∧
        Bracketed '\x7b' '\x7d' (texts.text .body) := by
  rw [print_function h, FunctionTexts.joined,
    append_inj_of_length_le (length_le_withEnds ..) (length_le_withEnds ..),
    withEnds_eq_self_iff, withEnds_eq_self_iff]

/-! ## Functions in a module -/

namespace SourceText

/-- The items of nodes are those of the nodes, in their order. -/
theorem exists_getElem?_items {s : SourceText} {cursor : Nat} {ns : List Node} {k : Nat} {n : Node}
    (h : ns[k]? = some n) :
    ∃ trivia, (s.items cursor ns).1[k]? = some (s.item trivia n) := by
  induction ns generalizing cursor k with
  | nil => cases h
  | cons m ns ih =>
    rw [items_cons]
    cases k with
    | zero =>
      obtain rfl : m = n := by simpa using h
      exact ⟨_, rfl⟩
    | succ k => exact ih (by simpa using h)

/-- The item of an export of a function holds that function. -/
theorem item_of_function {s : SourceText} {trivia : String} {n target : Node}
    (htarget : defaultExport? n = some target) (hfunction : isFunction target = true) :
    s.item trivia n =
      .exportDeclaration ⟨some (s.span n), some trivia⟩ (.function (s.function target)) := by
  simp only [item, htarget, exportOf, hfunction, if_true]

end SourceText

variable {trees : TreeReader} {source : String} {root n target : Node} {k : Nat}
  {texts : FunctionTexts}

/-- A function that is exported is read, and alone it prints as its parts exactly if parameters and
body have brackets for ends. The node of a body that a comment follows may end with the comment. -/
theorem readModuleBy_function (htree : trees source.toList = some root)
    (hclean : root.hasError = false) (hitem : (SourceText.itemNodes root)[k]? = some n)
    (htarget : SourceText.defaultExport? n = some target) (hfunction : isFunction target = true)
    (hparts : HasParts source.toList target texts) :
    ∃ m place f, readModuleBy trees source = .ok m ∧
      m.body[k]? = some (.exportDeclaration place (.function f)) ∧
      ((AnyNode.item (DefaultDeclaration.function f).toItem).print none = .ok texts.joined ↔
        Bracketed '(' ')' (texts.text .parameters) ∧
          Bracketed '\x7b' '\x7d' (texts.text .body)) := by
  obtain ⟨trivia, hk⟩ :
      ∃ trivia, ((SourceText.ofChars source.toList).items 0 (SourceText.itemNodes root)).1[k]? =
        some ((SourceText.ofChars source.toList).item trivia n) :=
    SourceText.exists_getElem?_items hitem
  rw [SourceText.item_of_function htarget hfunction] at hk
  have hread := readModuleBy_of_clean htree hclean
  have hprint : ∀ code, (AnyNode.item (DefaultDeclaration.function
      ((SourceText.ofChars source.toList).function target)).toItem).print none = .ok code ↔
        ((SourceText.ofChars source.toList).function target).print = code :=
    fun code => Except.ok.injEq _ code ▸ Iff.rfl
  exact ⟨_, _, _, hread, hk, (hprint _).trans (print_function_eq_iff hparts)⟩

/-! ### A function with every part -/

/-- The source of a function that has every part, and a comment among them. -/
def chargerSource : String :=
  "// ☕\nexport default async function* /* é */ charger<T>(clé: T): AsyncGenerator<T> " ++
    "\x7b yield clé \x7d\n"

/-- The tree of the function. -/
def chargerFunction : Node :=
  .mk (.phrase .generatorFunctionDeclaration) false false true ⟨22, 1⟩ ⟨100, 1⟩ [
    .mk (.terminal (.text "async")) false false false ⟨22, 1⟩ ⟨27, 1⟩ [],
    .mk (.terminal (.text "function")) false false false ⟨28, 1⟩ ⟨36, 1⟩ [],
    .mk (.terminal (.text "*")) false false false ⟨36, 1⟩ ⟨37, 1⟩ [],
    .mk (.terminal (.lexeme .comment)) false false false ⟨38, 1⟩ ⟨46, 1⟩ [],
    .mk (.terminal (.lexeme .identifier)) false false false ⟨47, 1⟩ ⟨54, 1⟩ [],
    .mk (.phrase .typeParameters) false false false ⟨54, 1⟩ ⟨57, 1⟩ [],
    .mk (.phrase .formalParameters) false false false ⟨57, 1⟩ ⟨66, 1⟩ [],
    .mk (.phrase .typeAscription) false false false ⟨66, 1⟩ ⟨85, 1⟩ [],
    .mk (.phrase .statementBlock) false false false ⟨86, 1⟩ ⟨100, 1⟩ []]

/-- The tree of the export. -/
def chargerExport : Node :=
  .mk (.phrase .exportStatement) false false false ⟨7, 1⟩ ⟨100, 1⟩ [
    .mk (.terminal (.text "export")) false false false ⟨7, 1⟩ ⟨13, 1⟩ [],
    .mk (.terminal (.text "default")) false false false ⟨14, 1⟩ ⟨21, 1⟩ [],
    chargerFunction]

/-- The tree of the source. -/
def chargerTree : Node :=
  .mk (.phrase .program) false false false ⟨0, 0⟩ ⟨101, 2⟩ [
    .mk (.terminal (.lexeme .comment)) false false false ⟨0, 0⟩ ⟨6, 0⟩ [],
    chargerExport]

/-- A reader that knows that tree alone. -/
def chargerReader : TreeReader := fun _ => some chargerTree

/-- The parts of the function. -/
def chargerTexts : FunctionTexts
  | .asyncWord => some "async"
  | .functionWord => some "function"
  | .star => some "*"
  | .name => some "charger"
  | .typeParameters => some "<T>"
  | .parameters => some "(clé: T)"
  | .returnType => some ": AsyncGenerator<T>"
  | .body => some "\x7b yield clé \x7d"

theorem hasParts_charger : HasParts chargerSource.toList chargerFunction chargerTexts := by
  -- each part is the text between two offsets
  have hfits {p : FunctionPart} {t : String} {n : Node} (a b : Nat)
      (h : n.kind ∈ p.kinds ∧
        chargerSource.toList =
          chargerSource.toList.take a ++ t.toList ++ chargerSource.toList.drop b ∧
        n.start.byte = byteLength (chargerSource.toList.take a) ∧
        n.stop.byte = byteLength (chargerSource.toList.take a ++ t.toList)) :
      Fits chargerSource.toList (p, t) n :=
    ⟨h.1, _, _, h.2⟩
  exact .cons (hfits 20 25 (by decide)) <| .cons (hfits 26 34 (by decide)) <|
    .cons (hfits 34 35 (by decide)) <| .cons (hfits 44 51 (by decide)) <|
    .cons (hfits 51 54 (by decide)) <| .cons (hfits 54 62 (by decide)) <|
    .cons (hfits 62 81 (by decide)) <| .cons (hfits 82 95 (by decide)) .nil

theorem readModuleBy_function_charger :
    chargerReader chargerSource.toList = some chargerTree ∧
      (SourceText.itemNodes chargerTree)[0]? = some chargerExport ∧
      SourceText.defaultExport? chargerExport = some chargerFunction ∧
      HasParts chargerSource.toList chargerFunction chargerTexts ∧
      ∃ m place f, readModuleBy chargerReader chargerSource = .ok m ∧
        m.body[0]? = some (.exportDeclaration place (.function f)) ∧
        (AnyNode.item (DefaultDeclaration.function f).toItem).print none =
          .ok "async function* charger<T>(clé: T): AsyncGenerator<T> \x7b yield clé \x7d" := by
  have htree : chargerReader chargerSource.toList = some chargerTree := rfl
  have hitem : (SourceText.itemNodes chargerTree)[0]? = some chargerExport := rfl
  have htarget : SourceText.defaultExport? chargerExport = some chargerFunction := rfl
  obtain ⟨m, place, f, hread, hbody, hprint⟩ :=
    readModuleBy_function htree rfl hitem htarget rfl hasParts_charger
  have hbrackets : Bracketed '(' ')' (chargerTexts.text .parameters) ∧
      Bracketed '\x7b' '\x7d' (chargerTexts.text .body) :=
    ⟨⟨"clé: T".toList, rfl⟩, ⟨" yield clé ".toList, rfl⟩⟩
  exact ⟨htree, hitem, htarget, hasParts_charger, m, place, f, hread, hbody,
    hprint.mpr hbrackets⟩

end CustomElement.Syntax
