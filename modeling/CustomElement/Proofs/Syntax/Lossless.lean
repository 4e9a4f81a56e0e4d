-- SUMMARY: A module that is read divides its source without gap or overlap, and prints back as it.
import Mathlib.Data.List.Basic
import CustomElement.Proofs.Parsing.Order
import CustomElement.Proofs.Syntax.Tiling

/-! ## Reading without loss

Whatever trees a source is read by, as long as the nodes at their top are in order on the text, the
items of the module tile the source. So the module prints back as its source, and where nothing is
taken apart it does so without the source at hand. -/

namespace CustomElement.Syntax

open Parsing Text Grammar

/-! ## Items of nodes -/

namespace SourceText

variable {source : String}

/-- The characters between two offsets inside the source are the slice there. -/
theorem between_ofChars {a b : Nat} (ha : a ≤ source.length) (hb : b ≤ source.length) :
    (ofChars source.toList).between a b = slice source a b :=
  (slice_natCast ha hb).symm

theorem place_exportOf (s : SourceText) (place : Placement) (target : Node) :
    (s.exportOf place target).place = place := by
  unfold exportOf
  split_ifs <;> rfl

/-- The place of an item is that of its node. -/
theorem place_item (s : SourceText) (trivia : String) (n : Node) :
    (s.item trivia n).place = ⟨some (s.span n), some trivia⟩ := by
  unfold item
  cases defaultExport? n with
  | none => rfl
  | some target => exact place_exportOf s _ target

theorem isDefaultExport_exportOf (s : SourceText) (place : Placement) (target : Node) :
    (s.exportOf place target).isDefaultExport = true := by
  unfold exportOf
  split_ifs <;> rfl

/-- An item that is no default export is the text of its node. -/
theorem print_item {s : SourceText} {trivia : String} {n : Node}
    (h : (s.item trivia n).isDefaultExport = false) : (s.item trivia n).print = s.text n := by
  unfold item at h ⊢
  cases hexport : defaultExport? n with
  | none => rfl
  | some target =>
    simp only [hexport, isDefaultExport_exportOf] at h
    exact absurd h (by decide)

/-- A declaration that is exported has the span of its node. -/
theorem span_declaration {s : SourceText} {trivia : String} {n : Node} {p : Placement}
    {d : DefaultDeclaration} (h : s.item trivia n = .exportDeclaration p d) :
    ∃ target, d.toItem.place.span = some (s.span target) := by
  unfold item at h
  cases hexport : defaultExport? n with
  | none => simp [hexport] at h
  | some target =>
    simp only [hexport, exportOf] at h
    refine ⟨target, ?_⟩
    split_ifs at h <;> cases h <;> rfl

/-- The item of a node that lies behind an offset stands in the source behind that offset. -/
theorem standsIn_item {a : Nat} {n : Node} (ha : a ≤ (ofChars source.toList).start n)
    (hforward : n.start.byte ≤ n.stop.byte) (hinside : n.stop.byte ≤ byteLength source.toList) :
    StandsIn source a ((ofChars source.toList).start n) ((ofChars source.toList).stop n)
      ((ofChars source.toList).item
        ((ofChars source.toList).between a ((ofChars source.toList).start n)) n) := by
  have hbc : (ofChars source.toList).start n ≤ (ofChars source.toList).stop n :=
    Offsets.char_mono hforward hinside
  have hc : (ofChars source.toList).stop n ≤ source.length := by
    rw [← String.length_toList]
    exact Offsets.char_le_length hinside
  refine ⟨?_, ha, hbc, hc, ?_, ?_⟩
  · rw [place_item, between_ofChars (by omega) (by omega)]
    exact ⟨_, _, rfl⟩
  · intro hexport
    rw [print_item hexport, text, between_ofChars (by omega) hc]
  · intro p d hitem
    obtain ⟨target, hspan⟩ := span_declaration hitem
    exact ⟨_, hspan⟩

@[simp] theorem items_cons (s : SourceText) (cursor : Nat) (n : Node) (ns : List Node) :
    s.items cursor (n :: ns) =
      (s.item (s.between cursor (s.start n)) n :: (s.items (s.stop n) ns).1,
        (s.items (s.stop n) ns).2) := rfl

/-- Nodes that follow one another behind an offset make items that tile the source from there. -/
theorem tiles_items {ns : List Node} {cursor : Nat} (hcursor : cursor ≤ source.length)
    (hbehind : ∀ n ∈ ns, cursor ≤ (ofChars source.toList).start n)
    (hforward : ∀ n ∈ ns, n.start.byte ≤ n.stop.byte)
    (hinside : ∀ n ∈ ns, n.stop.byte ≤ byteLength source.toList)
    (hordered : ns.Pairwise fun m n => m.stop.byte ≤ n.start.byte) :
    ((ofChars source.toList).items cursor ns).2 ≤ source.length ∧
      Tiles source cursor ((ofChars source.toList).items cursor ns).1
        ((ofChars source.toList).items cursor ns).2 := by
  induction ns generalizing cursor with
  | nil => exact ⟨hcursor, .nil cursor⟩
  | cons n ns ih =>
    have hn := List.mem_cons_self (a := n) (l := ns)
    have hstands := standsIn_item (hbehind n hn) (hforward n hn) (hinside n hn)
    -- the next nodes begin behind this one, in characters as in bytes
    have hnext : ∀ m ∈ ns, (ofChars source.toList).stop n ≤ (ofChars source.toList).start m := by
      intro m hm
      have hm' := List.mem_cons_of_mem n hm
      have hbytes := (List.pairwise_cons.mp hordered).1 m hm
      exact Offsets.char_mono hbytes (Nat.le_trans (hforward m hm') (hinside m hm'))
    obtain ⟨hlast, hrest⟩ := ih hstands.inside hnext
      (fun m hm => hforward m (List.mem_cons_of_mem n hm))
      (fun m hm => hinside m (List.mem_cons_of_mem n hm)) (List.pairwise_cons.mp hordered).2
    rw [items_cons]
    exact ⟨hlast, .cons hstands hrest⟩

/-- The spans of the items are those of the nodes, one for each. -/
theorem spans_items (s : SourceText) (cursor : Nat) (ns : List Node) :
    (s.items cursor ns).1.map (·.place.span) = ns.map fun n => some (s.span n) := by
  induction ns generalizing cursor with
  | nil => rfl
  | cons n ns ih => rw [items_cons, List.map_cons, List.map_cons, ih, place_item]

theorem module_eq (s : SourceText) (root : Node) :
    s.module root =
      { body := (s.items 0 (itemNodes root)).1
        trailingTrivia := some (s.between (s.items 0 (itemNodes root)).2 s.chars.length) } := rfl

/-- The nodes that become items are the named ones at the top that are no trivia. -/
theorem itemNodes_eq (root : Node) :
    itemNodes root = root.namedChildren.filter fun n => !isTrivia n := by
  rw [itemNodes, Node.namedChildren, List.filter_filter]
  congr 1
  funext n
  exact Bool.and_comm _ _

/-- The module of a tree whose nodes are in order covers the source. -/
theorem covers_module {root : Node} (h : root.InOrderOn source.toList) :
    ((ofChars source.toList).module root).Covers source := by
  have hsub : ∀ n ∈ itemNodes root, n ∈ root.namedChildren := by
    intro n hn
    rw [itemNodes_eq] at hn
    exact (List.mem_filter.mp hn).1
  have hordered : (itemNodes root).Pairwise fun m n => m.stop.byte ≤ n.start.byte := by
    rw [itemNodes_eq]
    exact h.ordered.filter _
  obtain ⟨hlast, htiles⟩ := tiles_items (Nat.zero_le source.length) (fun _ _ => Nat.zero_le _)
    (fun n hn => h.forward n (hsub n hn)) (fun n hn => h.inside n (hsub n hn)) hordered
  refine ⟨_, hlast, htiles, ?_⟩
  have hend : (ofChars source.toList).chars.length = source.length := String.length_toList
  simp only [module_eq, hend, between_ofChars hlast (Nat.le_refl _)]

end SourceText

/-! ## Accepted sources -/

variable {trees : TreeReader} {source : String} {m : Module}

/-- A source that is accepted has a tree, and its module is that of the tree. -/
theorem tree_of_readModuleBy (h : readModuleBy trees source = .ok m) :
    ∃ root, trees source.toList = some root ∧
      m = (SourceText.ofChars source.toList).module root := by
  unfold readModuleBy at h
  split at h
  · next root hroot =>
    refine ⟨root, hroot, ?_⟩
    unfold moduleOfTree at h
    split at h
    · cases h
    · exact (Except.ok.inj h).symm
  · cases h

/-- A tree without errors gives its module. -/
theorem readModuleBy_of_clean {root : Node} (htree : trees source.toList = some root)
    (hclean : root.hasError = false) :
    readModuleBy trees source = .ok ((SourceText.ofChars source.toList).module root) := by
  simp [readModuleBy, htree, moduleOfTree, hclean]

/-- A tree with errors gives the first of them, or that of the root. -/
theorem readModuleBy_of_hasError {root : Node} (htree : trees source.toList = some root)
    (herror : root.hasError = true) :
    readModuleBy trees source =
      .error (.ofNode source.toList (root.firstError?.getD root)) := by
  simp [readModuleBy, htree, moduleOfTree, herror]

/-- A module that was read covers its source. -/
theorem covers_of_readModuleBy (htrees : trees.InOrder) (h : readModuleBy trees source = .ok m) :
    m.Covers source := by
  obtain ⟨root, hroot, rfl⟩ := tree_of_readModuleBy h
  exact SourceText.covers_module (htrees _ _ hroot)

/-- So does a module that was read by the grammar. -/
theorem covers_of_readModule (h : readModule source = .ok m) : m.Covers source :=
  covers_of_readModuleBy TreeReader.inOrder_grammar h

/-! ## Nothing is lost -/

/-- A module holds a source, read by a tree, without loss. -/
structure Module.Holds (source : String) (root : Node) (m : Module) : Prop where
  /-- There is one part for each named node at the top that is no trivia. The parts are in order,
  apart and inside, and with the trailing trivia they are the source. -/
  divided : ∃ (parts : List Part) (trailing : String),
    m.body.map ModuleItem.place = parts.map Part.place ∧
    m.trailingTrivia = some trailing ∧
    parts.map Part.span = (root.namedChildren.filter fun n => !isTrivia n).map
      (SourceText.ofChars source.toList).span ∧
    (parts.Pairwise fun p q => p.span.stop ≤ q.span.start) ∧
    (∀ p ∈ parts, 0 ≤ p.span.start ∧ p.span.start ≤ p.span.stop ∧
      p.span.stop ≤ source.length) ∧
    String.join (parts.map (Part.text source)) ++ trailing = source
  printed : m.print source = source
  /-- Without default exports the source need not be at hand. -/
  printedAlone : (∀ i ∈ m.body, i.isDefaultExport = false) → m.print = source

/-- The spans of parts are those of the nodes whose items take them up. -/
theorem spans_of_places {root : Node} {parts : List Part}
    (h : ((SourceText.ofChars source.toList).module root).body.map ModuleItem.place =
      parts.map Part.place) :
    parts.map Part.span = (root.namedChildren.filter fun n => !isTrivia n).map
      (SourceText.ofChars source.toList).span := by
  have hparts : ((SourceText.ofChars source.toList).module root).body.map (·.place.span) =
      (parts.map Part.span).map some := by
    have := congrArg (List.map Placement.span) h
    simpa [Function.comp_def, Part.place] using this
  have hnodes := SourceText.spans_items (SourceText.ofChars source.toList) 0
    (SourceText.itemNodes root)
  have hsome : (parts.map Part.span).map some =
      ((SourceText.itemNodes root).map (SourceText.ofChars source.toList).span).map some := by
    rw [← hparts, SourceText.module_eq, List.map_map]
    exact hnodes
  rw [← SourceText.itemNodes_eq]
  exact List.map_injective_iff.mpr (fun _ _ => Option.some.inj) hsome

/-- Reading loses nothing, and printing undoes it. -/
theorem readModuleBy_lossless (htrees : trees.InOrder) (h : readModuleBy trees source = .ok m) :
    ∃ root, trees source.toList = some root ∧ m.Holds source root := by
  have hcovers := covers_of_readModuleBy htrees h
  obtain ⟨root, hroot, rfl⟩ := tree_of_readModuleBy h
  obtain ⟨last, hlast, htiles, htrailing⟩ := id hcovers
  obtain ⟨parts, hplaces, hbounds, hordered, hjoin⟩ := htiles.exists_parts hlast
  have hinside : ∀ p ∈ parts, 0 ≤ p.span.start ∧ p.span.start ≤ p.span.stop ∧
      p.span.stop ≤ source.length := by
    intro p hp
    obtain ⟨hstart, hforward, hstop⟩ := hbounds p hp
    omega
  have hwhole : String.join (parts.map (Part.text source)) ++ slice source last source.length
      = source := by
    rw [hjoin]
    have := slice_append (s := source) (Nat.zero_le last) hlast (Nat.le_refl _)
    simpa using this
  exact ⟨root, hroot, ⟨parts, _, hplaces, htrailing, spans_of_places hplaces, hordered, hinside,
    hwhole⟩, hcovers.print_source, hcovers.print_none⟩

/-! ### A component with a comment in front -/

/-- The source of a component. The comment holds a character of three bytes. -/
def counterSource : String := "// ☕\nexport default function Counter() \x7b\x7d\n"

/-- The tree of the source. -/
def counterTree : Node :=
  .mk (.phrase .program) false false false ⟨0, 0⟩ ⟨44, 2⟩ [
    .mk (.terminal (.lexeme .comment)) false false false ⟨0, 0⟩ ⟨6, 0⟩ [],
    .mk (.phrase .exportStatement) false false false ⟨7, 1⟩ ⟨43, 1⟩ [
      .mk (.terminal (.text "export")) false false false ⟨7, 1⟩ ⟨13, 1⟩ [],
      .mk (.terminal (.text "default")) false false false ⟨14, 1⟩ ⟨21, 1⟩ [],
      .mk (.phrase .functionDeclaration) false false true ⟨22, 1⟩ ⟨43, 1⟩ [
        .mk (.terminal (.text "function")) false false false ⟨22, 1⟩ ⟨30, 1⟩ [],
        .mk (.terminal (.lexeme .identifier)) false false false ⟨31, 1⟩ ⟨38, 1⟩ [],
        .mk (.phrase .formalParameters) false false false ⟨38, 1⟩ ⟨40, 1⟩ [],
        .mk (.phrase .statementBlock) false false false ⟨41, 1⟩ ⟨43, 1⟩ []]]]

/-- A reader of that source alone. -/
def counterReader : TreeReader := fun text =>
  if text = counterSource.toList then some counterTree else none

/-- The module that is read. -/
def counterModule : Module where
  body := [.exportDeclaration ⟨some ⟨5, 41, 2, 1⟩, some "// ☕\n"⟩ (.function
    { place := { span := some ⟨20, 41, 2, 16⟩ }
      name := some { span := some ⟨29, 36, 2, 25⟩, name := "Counter" } })]
  trailingTrivia := some "\n"

theorem counterReader_inOrder : counterReader.InOrder := by
  intro text root h
  unfold counterReader at h
  split at h
  · next heq =>
    subst heq
    obtain rfl := Option.some.inj h
    exact ⟨by decide, by decide, by decide⟩
  · cases h

theorem readModuleBy_counterReader :
    readModuleBy counterReader counterSource = .ok counterModule := rfl

theorem readModuleBy_lossless_counter :
    readModuleBy counterReader counterSource = .ok counterModule ∧
      ∃ root, counterReader counterSource.toList = some root ∧
        counterModule.Holds counterSource root :=
  ⟨readModuleBy_counterReader,
    readModuleBy_lossless counterReader_inOrder readModuleBy_counterReader⟩

end CustomElement.Syntax
