-- SUMMARY: Items that tile a source, and what a module prints as whose items do.
import Mathlib.Data.List.Basic
import CustomElement.Proofs.Syntax.Printing
import CustomElement.Proofs.Text.Slice

/-! ## Modules over a source

Items tile a source where each stands behind the text between it and the item before; what is left
over at the end is the trailing trivia. Everything that is said about printing a module that was
read, changed or not, rests on that. -/

namespace CustomElement.Syntax

open Text

/-! ## Items in a source -/

/-- An item stands in its source over the text from `b` to `c`, behind the text from `a` to `b`. -/
structure StandsIn (source : String) (a b c : Nat) (i : ModuleItem) : Prop where
  place : ∃ line column, i.place = ⟨some ⟨b, c, line, column⟩, some (slice source a b)⟩
  before : a ≤ b
  forward : b ≤ c
  inside : c ≤ source.length
  /-- What is not taken apart is kept as its text. -/
  verbatim : i.isDefaultExport = false → i.print = slice source b c
  /-- A declaration that is exported has a place of its own. -/
  declared : ∀ p d, i = .exportDeclaration p d → ∃ span, d.toItem.place.span = some span

/-- Items tile the source from one offset to another. -/
inductive Tiles (source : String) : Nat → List ModuleItem → Nat → Prop
  | nil (a : Nat) : Tiles source a [] a
  | cons {a b c last : Nat} {i : ModuleItem} {rest : List ModuleItem} :
      StandsIn source a b c i → Tiles source c rest last → Tiles source a (i :: rest) last

/-- A module covers a source: its items tile it up to the trailing trivia. -/
def Module.Covers (source : String) (m : Module) : Prop :=
  ∃ last ≤ source.length, Tiles source 0 m.body last ∧
    m.trailingTrivia = some (slice source last source.length)

/-- What an item that was read takes up of its source: the text in front of it, and its span. -/
structure Part where
  trivia : String
  span : Span

namespace Part

/-- The place of an item that takes up a part. -/
def place (p : Part) : Placement := ⟨some p.span, some p.trivia⟩

/-- The text in front of the item and the text that the span covers. -/
def text (source : String) (p : Part) : String :=
  p.trivia ++ slice source p.span.start p.span.stop

end Part

namespace StandsIn

variable {source : String} {a b c : Nat} {i : ModuleItem}

theorem span_eq (h : StandsIn source a b c i) :
    ∃ line column, i.place.span = some ⟨b, c, line, column⟩ := by
  obtain ⟨line, column, hplace⟩ := h.place
  exact ⟨line, column, by rw [hplace]⟩

theorem trivia_eq (h : StandsIn source a b c i) :
    i.place.leadingTrivia = some (slice source a b) := by
  obtain ⟨line, column, hplace⟩ := h.place
  rw [hplace]

/-- With its source at hand the item is the text that it stands over. -/
theorem printFrom_source (h : StandsIn source a b c i) :
    i.printFrom (some source) = slice source b c := by
  obtain ⟨line, column, hspan⟩ := h.span_eq
  exact printFrom_some hspan

end StandsIn

namespace Tiles

variable {source : String} {a last : Nat} {items : List ModuleItem}

theorem le (h : Tiles source a items last) : a ≤ last := by
  induction h with
  | nil => exact Nat.le_refl _
  | cons hi _ ih =>
    have := hi.before
    have := hi.forward
    omega

/-- Tiles up to an item in the middle, the item, and the tiles behind it. -/
theorem split {xs ys : List ModuleItem} {i : ModuleItem}
    (h : Tiles source a (xs ++ i :: ys) last) :
    ∃ b c d, Tiles source a xs b ∧ StandsIn source b c d i ∧ Tiles source d ys last := by
  induction xs generalizing a with
  | nil =>
    obtain _ | ⟨hi, hys⟩ := h
    exact ⟨a, _, _, .nil a, hi, hys⟩
  | cons x xs ih =>
    obtain _ | ⟨hx, hrest⟩ := h
    obtain ⟨b, c, d, hxs, hi, hys⟩ := ih hrest
    exact ⟨b, c, d, .cons hx hxs, hi, hys⟩

/-- Where every item is printed as the text that it stands over, tiles print as the stretch that
they tile. -/
theorem printItems_eq {given : Option String} {first : Bool} (h : Tiles source a items last)
    (hlast : last ≤ source.length)
    (hitem : ∀ i ∈ items, ∀ a b c, StandsIn source a b c i →
      i.printFrom given = slice source b c) :
    printItems given first items = slice source a last := by
  induction h generalizing first with
  | nil a => exact (slice_self hlast).symm
  | @cons a b c last i rest hi hrest ih =>
    have hc := hrest.le
    have hab := hi.before
    have hbc := hi.forward
    have hrest' : printItems given false rest = slice source c last :=
      ih hlast fun j hj => hitem j (List.mem_cons_of_mem i hj)
    rw [printItems_cons, hitem i List.mem_cons_self a b c hi, hi.trivia_eq, hrest']
    simp only [separator_some]
    rw [slice_append hab hbc (by omega), slice_append (by omega) hc hlast]

/-- With the source at hand, tiles print as the stretch that they tile. -/
theorem printItems_source {first : Bool} (h : Tiles source a items last)
    (hlast : last ≤ source.length) :
    printItems (some source) first items = slice source a last :=
  h.printItems_eq hlast fun _ _ _ _ _ hi => hi.printFrom_source

/-- The parts of tiles: in order, apart, between the two ends, and nothing is left out. -/
theorem exists_parts (h : Tiles source a items last) (hlast : last ≤ source.length) :
    ∃ parts : List Part, items.map ModuleItem.place = parts.map Part.place ∧
      (∀ p ∈ parts, (a : Int) ≤ p.span.start ∧ p.span.start ≤ p.span.stop ∧
        p.span.stop ≤ last) ∧
      (parts.Pairwise fun p q => p.span.stop ≤ q.span.start) ∧
      String.join (parts.map (Part.text source)) = slice source a last := by
  induction h with
  | nil a => exact ⟨[], rfl, by simp, List.Pairwise.nil, by simp [slice_self hlast]⟩
  | @cons a b c last i rest hi hrest ih =>
    obtain ⟨parts, hplaces, hbounds, hordered, hjoin⟩ := ih hlast
    obtain ⟨line, column, hplace⟩ := hi.place
    have hab := hi.before
    have hbc := hi.forward
    have hc := hrest.le
    refine ⟨⟨slice source a b, ⟨b, c, line, column⟩⟩ :: parts, ?_, ?_, ?_, ?_⟩
    · rw [List.map_cons, List.map_cons, hplaces, hplace]
      rfl
    · intro p hp
      rcases List.mem_cons.mp hp with rfl | hp
      · dsimp only
        omega
      · have := hbounds p hp
        omega
    · exact List.Pairwise.cons (fun q hq => (hbounds q hq).1) hordered
    · rw [List.map_cons, String.join_cons, hjoin, Part.text]
      dsimp only
      rw [slice_append hab hbc (by omega), slice_append (by omega) hc hlast]

end Tiles

namespace Module.Covers

variable {source : String} {m : Module}

/-- Tiles that are each printed as the text they stand over, with the trailing trivia, are the
whole source. -/
theorem print_eq {given : Option String} (h : m.Covers source)
    (hitem : ∀ i ∈ m.body, ∀ a b c, StandsIn source a b c i →
      i.printFrom given = slice source b c) :
    m.print given = source := by
  obtain ⟨last, hlast, htiles, htrailing⟩ := h
  rw [Module.print, printBody, htiles.printItems_eq hlast hitem, htrailing, separator_some]
  have := slice_append (s := source) (Nat.zero_le last) hlast (Nat.le_refl _)
  simpa using this

/-- Printed with its source at hand, a module that covers the source is the source. -/
theorem print_source (h : m.Covers source) : m.print source = source :=
  h.print_eq fun _ _ _ _ _ hi => hi.printFrom_source

/-- Without default exports the source need not even be at hand. -/
theorem print_none (h : m.Covers source) (hexport : ∀ i ∈ m.body, i.isDefaultExport = false) :
    m.print = source :=
  h.print_eq fun i hi _ _ _ hstands => hstands.verbatim (hexport i hi)

end Module.Covers

end CustomElement.Syntax
