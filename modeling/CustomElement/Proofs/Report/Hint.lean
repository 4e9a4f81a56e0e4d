-- SUMMARY: The hint for a source is the first one that applies to it, and there is none only where none applies.
import Mathlib.Data.List.Basic
import Mathlib.Data.List.TakeWhile
import CustomElement.Report.Hint

/-! ## The first hint that applies

When a hint applies is said of the text alone: by what it counts, or by what stands in it. Of the
hints that apply the first one is given, in a fixed order, and its texts tell it from all others with
both of its counts. -/

namespace CustomElement.Report

open Text

/-! ## An export of nothing -/

/-- Between two stretches of a text a word begins or ends. -/
def IsWordBoundary (before after : List Char) : Prop :=
  before.getLast?.any isWordChar ≠ after.head?.any isWordChar

/-- A text begins with an export of nothing: white space stands between its words, and spaces and
tabs at most between them and a semicolon or the end of the line. -/
def SpellsEmptyExport (cs : List Char) : Prop :=
  ∃ blanks spaces after : List Char,
    cs = "export".toList ++ (blanks ++ ("default".toList ++ (spaces ++ after))) ∧
    blanks ≠ [] ∧ (∀ c ∈ blanks, isBlank c = true) ∧ (∀ c ∈ spaces, c = ' ' ∨ c = '\t') ∧
    (after = [] ∨ after.head? = some ';' ∨ after.head? = some '\n')

/-- Somewhere in a text a word begins, and with it an export of nothing. -/
def HoldsEmptyExport (cs : List Char) : Prop :=
  ∃ before rest, cs = before ++ rest ∧ IsWordBoundary before rest ∧ SpellsEmptyExport rest

theorem after?_append (start : String) (rest : List Char) :
    after? start (start.toList ++ rest) = some rest := by
  simp [after?, ← String.length_toList]

theorem after?_eq_some_iff {start : String} {cs rest : List Char} :
    after? start cs = some rest ↔ cs = start.toList ++ rest := by
  constructor
  · intro h
    unfold after? at h
    split at h
    · next hprefix =>
      obtain ⟨behind, rfl⟩ := List.isPrefixOf_iff_prefix.mp hprefix
      obtain rfl := Option.some.inj h
      simp [← String.length_toList]
    · cases h
  · rintro rfl
    exact after?_append start rest

/-- Characters of one sort up to one of another sort are dropped, and nothing else. -/
theorem dropWhile_append_of_head? {p : Char → Bool} {front rest : List Char}
    (hfront : ∀ c ∈ front, p c = true) (hrest : rest.head?.any p = false) :
    (front ++ rest).dropWhile p = rest := by
  rw [List.dropWhile_append_of_pos hfront]
  cases rest with
  | nil => rfl
  | cons c rest => exact List.dropWhile_cons_of_neg (by simpa using hrest)

/-- Is the character a space or a tab? -/
def isGap (c : Char) : Bool := c == ' ' || c == '\t'

/-- Does a line or a statement end here? -/
def isEnd : List Char → Bool
  | [] => true
  | c :: _ => c == ';' || c == '\n'

theorem isEnd_iff {cs : List Char} :
    isEnd cs = true ↔ cs = [] ∨ cs.head? = some ';' ∨ cs.head? = some '\n' := by
  cases cs <;> simp [isEnd]

/-- The two words and what must stand behind each of them. -/
theorem beginsEmptyExport_words {cs : List Char} :
    beginsEmptyExport cs = true ↔ ∃ rest behind : List Char,
      cs = "export".toList ++ rest ∧ rest.head?.any isBlank = true ∧
      rest.dropWhile isBlank = "default".toList ++ behind ∧
      isEnd (behind.dropWhile isGap) = true := by
  simp only [← after?_eq_some_iff]
  unfold beginsEmptyExport
  cases after? "export" cs with
  | none => simp
  | some rest =>
    cases hblank : rest.head?.any isBlank with
    | false => simp [hblank]
    | true =>
      cases hdefault : after? "default" (rest.dropWhile isBlank) with
      | none => simp [hdefault]
      | some behind =>
        simp only [hblank, hdefault]
        change isEnd (behind.dropWhile isGap) = true ↔ _
        simp [hblank, hdefault]

theorem beginsEmptyExport_iff {cs : List Char} :
    beginsEmptyExport cs = true ↔ SpellsEmptyExport cs := by
  rw [beginsEmptyExport_words]
  constructor
  · rintro ⟨rest, behind, rfl, hblank, hdefault, hend⟩
    refine ⟨rest.takeWhile isBlank, behind.takeWhile isGap, behind.dropWhile isGap, ?_, ?_,
      fun c => List.mem_takeWhile_imp, ?_, isEnd_iff.mp hend⟩
    · rw [List.takeWhile_append_dropWhile, ← hdefault, List.takeWhile_append_dropWhile]
    · cases rest with
      | nil => cases hblank
      | cons c rest =>
        have hc : isBlank c = true := by simpa using hblank
        simp [hc]
    · intro c hc
      simpa [isGap] using List.mem_takeWhile_imp hc
  · rintro ⟨blanks, spaces, after, rfl, hne, hblanks, hspaces, hafter⟩
    have hgap : (spaces ++ after).dropWhile isGap = after := by
      refine dropWhile_append_of_head? (by simpa [isGap] using hspaces) ?_
      obtain rfl | h | h := hafter
      · rfl
      · rw [h]; rfl
      · rw [h]; rfl
    refine ⟨_, spaces ++ after, rfl, ?_, dropWhile_append_of_head? hblanks rfl, ?_⟩
    · obtain ⟨c, blanks, rfl⟩ := List.exists_cons_of_ne_nil hne
      simpa using hblanks c List.mem_cons_self
    · rw [hgap]
      exact isEnd_iff.mpr hafter

/-! ## Somewhere in a text -/

/-- The search goes through all places of the text and looks at the character before each. -/
theorem hasEmptyExport_iff_exists {before : Option Char} {cs : List Char} :
    hasEmptyExport before cs = true ↔ ∃ front rest, cs = front ++ rest ∧
      (before.toList ++ front).getLast?.any isWordChar = false ∧ beginsEmptyExport rest = true := by
  induction cs generalizing before with
  | nil =>
    have hnil : beginsEmptyExport [] = false := rfl
    simp [hasEmptyExport, hnil]
  | cons c cs ih =>
    rw [hasEmptyExport, Bool.or_eq_true, Bool.and_eq_true, ih]
    have hnone : (before.toList ++ []).getLast? = before := by cases before <;> rfl
    have hlast (front : List Char) : (before.toList ++ c :: front).getLast? =
        ((some c).toList ++ front).getLast? :=
      List.getLast?_append_of_ne_nil _ (List.cons_ne_nil c front)
    constructor
    · rintro (⟨hbefore, hbegins⟩ | ⟨front, rest, rfl, hword, hbegins⟩)
      · refine ⟨[], c :: cs, rfl, ?_, hbegins⟩
        rw [hnone]
        simpa using hbefore
      · exact ⟨c :: front, rest, rfl, by rw [hlast, hword], hbegins⟩
    · rintro ⟨front, rest, hcs, hword, hbegins⟩
      cases front with
      | nil =>
        rw [List.nil_append] at hcs
        subst hcs
        rw [hnone] at hword
        exact .inl ⟨by simp [hword], hbegins⟩
      | cons d front =>
        obtain ⟨rfl, rfl⟩ := List.cons.inj hcs
        exact .inr ⟨front, rest, rfl, by rw [← hlast, hword], hbegins⟩

/-- A word begins at the letters of an export if no character of a word stands before them. -/
theorem isWordBoundary_iff {before rest : List Char} (h : SpellsEmptyExport rest) :
    IsWordBoundary before rest ↔ before.getLast?.any isWordChar = false := by
  obtain ⟨_, _, _, rfl, _⟩ := h
  have hletter : isWordChar 'e' = true := by decide
  simp [IsWordBoundary, hletter]

theorem hasEmptyExport_iff {cs : List Char} :
    hasEmptyExport none cs = true ↔ HoldsEmptyExport cs := by
  rw [hasEmptyExport_iff_exists, HoldsEmptyExport]
  refine exists_congr fun before => exists_congr fun rest => and_congr_right fun _ => ?_
  rw [beginsEmptyExport_iff]
  exact and_congr_left fun hrest => (isWordBoundary_iff hrest).symm

/-! ## Brackets -/

namespace Bracket

/-- Brackets of the sort match in number. -/
def Balanced (cs : List Char) (b : Bracket) : Prop := cs.count b.opening = cs.count b.closing

/-- Curly brackets come first, then round ones, then square ones. -/
def rank : Bracket → Nat
  | brace => 0
  | parenthesis => 1
  | square => 2

theorem mem_all (b : Bracket) : b ∈ all := by cases b <;> decide

theorem rank_le (b : Bracket) : b.rank ≤ 2 := by cases b <;> decide

theorem rank_injective {a b : Bracket} : a.rank = b.rank → a = b := by
  cases a <;> cases b <;> decide

theorem all_ordered : all.Pairwise fun a b => a.rank < b.rank := by decide

end Bracket

theorem unmatched?_eq_none_iff {cs : List Char} {bs : List Bracket} :
    unmatched? cs bs = none ↔ ∀ b ∈ bs, b.Balanced cs := by
  induction bs with
  | nil => simp [unmatched?]
  | cons b bs ih =>
    rw [unmatched?, List.forall_mem_cons, ← ih]
    by_cases hb : cs.count b.opening = cs.count b.closing <;> simp [Bracket.Balanced, hb]

/-- What is found is the first sort that does not match, with both of its counts. -/
theorem exists_of_unmatched?_eq_some {cs : List Char} {bs : List Bracket} {h : Hint}
    (hfound : unmatched? cs bs = some h) :
    ∃ before b after, bs = before ++ b :: after ∧ (∀ a ∈ before, a.Balanced cs) ∧
      ¬ b.Balanced cs ∧ h = .unmatched b (cs.count b.opening) (cs.count b.closing) := by
  induction bs with
  | nil => cases hfound
  | cons b bs ih =>
    rw [unmatched?] at hfound
    by_cases hb : cs.count b.opening = cs.count b.closing
    · obtain ⟨before, a, after, rfl, hbefore, ha⟩ := ih (by simpa [hb] using hfound)
      exact ⟨b :: before, a, after, rfl, List.forall_mem_cons.mpr ⟨hb, hbefore⟩, ha⟩
    · exact ⟨[], b, bs, rfl, by simp, hb, by simpa [hb, eq_comm] using hfound⟩

/-! ## Hints -/

namespace Hint

/-- When a hint applies to a text. -/
inductive Applies (cs : List Char) : Hint → Prop
  /-- The number of backticks is odd. -/
  | openTemplate : cs.count '`' % 2 = 1 → Applies cs .openTemplate
  /-- Brackets do not match in number; the hint gives both numbers. -/
  | unmatched (b : Bracket) : ¬ b.Balanced cs →
      Applies cs (.unmatched b (cs.count b.opening) (cs.count b.closing))
  | emptyExport : HoldsEmptyExport cs → Applies cs .emptyExport

/-- The order in which hints are considered. -/
def rank : Hint → Nat
  | openTemplate => 0
  | unmatched b _ _ => 1 + b.rank
  | emptyExport => 4

/-- The hint is the first one that applies. -/
structure IsFirst (cs : List Char) (h : Hint) : Prop where
  applies : h.Applies cs
  first : ∀ g : Hint, g.Applies cs → h.rank ≤ g.rank

/-- Two hints that apply are one if they come at the same place. -/
theorem Applies.eq_of_rank_eq {cs : List Char} {g h : Hint} (hg : g.Applies cs) (hh : h.Applies cs)
    (heq : g.rank = h.rank) : g = h := by
  cases hg with
  | openTemplate =>
    cases hh with
    | openTemplate => rfl
    | unmatched b =>
      simp only [rank] at heq
      omega
    | emptyExport => cases heq
  | unmatched a =>
    have ha := a.rank_le
    cases hh with
    | openTemplate =>
      simp only [rank] at heq
      omega
    | unmatched b =>
      obtain rfl : a = b := Bracket.rank_injective (Nat.add_left_cancel heq)
      rfl
    | emptyExport =>
      simp only [rank] at heq
      omega
  | emptyExport =>
    cases hh with
    | openTemplate => cases heq
    | unmatched b =>
      have hb := b.rank_le
      simp only [rank] at heq
      omega
    | emptyExport => rfl

theorem IsFirst.unique {cs : List Char} {g h : Hint} (hg : g.IsFirst cs) (hh : h.IsFirst cs) :
    g = h :=
  hg.applies.eq_of_rank_eq hh.applies
    (Nat.le_antisymm (hg.first h hh.applies) (hh.first g hg.applies))

end Hint

/-- What is found is the first hint that applies. -/
theorem isFirst_of_hint?_eq_some {source : String} {h : Hint} (hsome : hint? source = some h) :
    h.IsFirst source.toList := by
  dsimp only [hint?] at hsome
  split at hsome
  · next hodd =>
    obtain rfl := Option.some.inj hsome
    exact ⟨.openTemplate hodd, fun _ _ => Nat.zero_le _⟩
  next heven =>
  split at hsome
  · next found hfound =>
    obtain rfl := Option.some.inj hsome
    obtain ⟨before, b, after, hall, hbefore, hb, rfl⟩ := exists_of_unmatched?_eq_some hfound
    refine ⟨.unmatched b hb, fun g hg => ?_⟩
    cases hg with
    | openTemplate hodd => exact absurd hodd heven
    | unmatched a ha =>
      -- no sort that comes before it applies
      have hmem := a.mem_all
      have hordered := Bracket.all_ordered
      rw [hall] at hmem hordered
      rcases List.mem_append.mp hmem with hmem | hmem
      · exact absurd (hbefore a hmem) ha
      · rcases List.mem_cons.mp hmem with rfl | hmem
        · exact Nat.le_refl _
        · have := (List.pairwise_cons.mp (List.pairwise_append.mp hordered).2.1).1 a hmem
          simp only [Hint.rank]
          omega
    | emptyExport =>
      have := b.rank_le
      simp only [Hint.rank]
      omega
  · next hnone =>
    split at hsome
    · next hempty =>
      obtain rfl := Option.some.inj hsome
      refine ⟨.emptyExport (hasEmptyExport_iff.mp hempty), fun g hg => ?_⟩
      cases hg with
      | openTemplate hodd => exact absurd hodd heven
      | unmatched a ha => exact absurd (unmatched?_eq_none_iff.mp hnone a a.mem_all) ha
      | emptyExport => exact Nat.le_refl _
    · cases hsome

/-- Where nothing is found, no hint applies. -/
theorem not_applies_of_hint?_eq_none {source : String} (hnone : hint? source = none) (h : Hint) :
    ¬ h.Applies source.toList := by
  dsimp only [hint?] at hnone
  split at hnone
  · cases hnone
  next heven =>
  split at hnone
  · cases hnone
  next hunmatched =>
  split at hnone
  · cases hnone
  next hempty =>
  intro happlies
  cases happlies with
  | openTemplate hodd => exact heven hodd
  | unmatched b hb => exact hb (unmatched?_eq_none_iff.mp hunmatched b b.mem_all)
  | emptyExport hholds => exact hempty (hasEmptyExport_iff.mpr hholds)

theorem hint?_eq_some_iff {source : String} {h : Hint} :
    hint? source = some h ↔ h.IsFirst source.toList := by
  constructor
  · exact isFirst_of_hint?_eq_some
  · intro hfirst
    cases hg : hint? source with
    | none => exact absurd hfirst.applies (not_applies_of_hint?_eq_none hg h)
    | some g => rw [(isFirst_of_hint?_eq_some hg).unique hfirst]

theorem hint?_eq_none_iff {source : String} :
    hint? source = none ↔ ∀ h : Hint, ¬ h.Applies source.toList := by
  constructor
  · exact not_applies_of_hint?_eq_none
  · intro hnone
    cases hg : hint? source with
    | none => rfl
    | some g => exact absurd (isFirst_of_hint?_eq_some hg).applies (hnone g)

/-! ## What is reported -/

/-- The digits of a number end where something else follows, and they tell the number. -/
theorem toString_append_inj {m n : Nat} {front behind : List Char}
    (hfront : front.head?.any Char.isDigit = false)
    (hbehind : behind.head?.any Char.isDigit = false)
    (h : (toString m).toList ++ front = (toString n).toList ++ behind) :
    m = n ∧ front = behind := by
  have hdigits (k : Nat) : (toString k).toList = Nat.toDigits 10 k := by
    rw [Nat.toString_eq_ofList_toDigits, String.toList_ofList]
  have hdrop {k : Nat} {rest : List Char} (hrest : rest.head?.any Char.isDigit = false) :
      (Nat.toDigits 10 k ++ rest).dropWhile Char.isDigit = rest :=
    dropWhile_append_of_head? (fun _ => Nat.isDigit_of_mem_toDigits (by decide) (by decide)) hrest
  rw [hdigits, hdigits] at h
  have hrest : front = behind := by
    have := congrArg (List.dropWhile Char.isDigit) h
    rwa [hdrop hfront, hdrop hbehind] at this
  rw [hrest, List.append_cancel_right_eq] at h
  have hvalue := congrArg (Nat.ofDigitChars 10 · 0) h
  simp only [Nat.ofDigitChars_ten_toDigits] at hvalue
  exact ⟨hvalue, hrest⟩

namespace Hint

/-- What a hint says, and its name. -/
def texts (h : Hint) : String × String := (h.message, h.name)

theorem message_unmatched (b : Bracket) (m n : Nat) : (unmatched b m n).message =
    "Unmatched " ++ b.label ++ ": found " ++ toString m ++ " '" ++ b.opening.toString ++
      "' but " ++ toString n ++ " '" ++ b.closing.toString ++ "'" := rfl

/-- The message about brackets tells how many there are of both. -/
theorem message_unmatched_injective {b : Bracket} {m n m' n' : Nat}
    (h : (unmatched b m n).message = (unmatched b m' n').message) : m = m' ∧ n = n' := by
  rw [message_unmatched, message_unmatched] at h
  have hchars := congrArg String.toList h
  simp only [String.toList_append, List.append_assoc] at hchars
  have hopened := List.append_cancel_left (List.append_cancel_left (List.append_cancel_left hchars))
  obtain ⟨hm, hrest⟩ := toString_append_inj rfl rfl hopened
  have hclosed := List.append_cancel_left (List.append_cancel_left (List.append_cancel_left hrest))
  exact ⟨hm, (toString_append_inj rfl rfl hclosed).1⟩

theorem name_unmatched_injective {a b : Bracket} {m n m' n' : Nat} :
    (unmatched a m n).name = (unmatched b m' n').name → a = b := by
  change "unmatched_" ++ a.shortName = "unmatched_" ++ b.shortName → a = b
  cases a <;> cases b <;> decide

/-- No other hint has the name of one about brackets. -/
theorem name_unmatched_ne (b : Bracket) (m n : Nat) :
    (unmatched b m n).name ≠ openTemplate.name ∧ (unmatched b m n).name ≠ emptyExport.name := by
  change "unmatched_" ++ b.shortName ≠ "unterminated_template" ∧
    "unmatched_" ++ b.shortName ≠ "empty_default_export"
  cases b <;> decide

/-- The texts tell the hint, with both of its counts. -/
theorem texts_injective {g h : Hint} (heq : g.texts = h.texts) : g = h := by
  obtain ⟨hmessage, hname⟩ := Prod.mk.inj heq
  cases g with
  | openTemplate =>
    cases h with
    | openTemplate => rfl
    | unmatched b m n => exact absurd hname.symm (name_unmatched_ne b m n).1
    | emptyExport => exact absurd hname (by decide)
  | unmatched a m n =>
    cases h with
    | openTemplate => exact absurd hname (name_unmatched_ne a m n).1
    | unmatched b _ _ =>
      obtain rfl := name_unmatched_injective hname
      obtain ⟨rfl, rfl⟩ := message_unmatched_injective hmessage
      rfl
    | emptyExport => exact absurd hname (name_unmatched_ne a m n).2
  | emptyExport =>
    cases h with
    | openTemplate => exact absurd hname (by decide)
    | unmatched b m n => exact absurd hname.symm (name_unmatched_ne b m n).2
    | emptyExport => rfl

end Hint

/-- What is reported of a source are the texts of the first hint that applies to it, and nothing is
reported only where no hint applies. -/
theorem hint?_reports_first (source : String) :
    (∀ h : Hint, (hint? source).map Hint.texts = some h.texts ↔ h.IsFirst source.toList) ∧
      ((hint? source).map Hint.texts = none ↔ ∀ h : Hint, ¬ h.Applies source.toList) := by
  refine ⟨fun h => ?_, by rw [Option.map_eq_none_iff, hint?_eq_none_iff]⟩
  rw [← hint?_eq_some_iff, Option.map_eq_some_iff]
  constructor
  · rintro ⟨g, hg, heq⟩
    rw [hg, Hint.texts_injective heq]
  · intro hh
    exact ⟨h, hh, rfl⟩

/-- Three hints apply, and the one about curly brackets comes first. -/
example : hint? "\x7b(\nexport default\n" = some (.unmatched .brace 1 0) := by decide

end CustomElement.Report
