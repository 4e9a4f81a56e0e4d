-- SUMMARY: Lower-case forms stay as they are, and letters in title case are all that is neither upper nor lower case.
import Mathlib.Data.List.Basic
import CustomElement.Text.Case

/-! ## Lower case

A character is settled if it is its own lower-case form. Lower-case forms are settled, and a text
is in lower case exactly if its characters are settled. The characters that are neither upper case
nor settled are the letters in title case.

The tables are compared as bitmaps: the characters of a table are the bits of one number, so that
two tables are apart, or one is part of another, by one operation on numbers. -/

namespace CustomElement.Text

/-! ## Stretches as bitmaps -/

/-- Is a number on one of some stretches, each with a first and a last number and a step? -/
def onStretches (stretches : List (Nat × Nat × Nat)) (n : Nat) : Bool :=
  stretches.any fun (first, last, step) => first ≤ n && n ≤ last && (n - first) % step == 0

/-- The bits 0, `step`, 2 · `step` and so on. -/
def rungs (step : Nat) : Nat → Nat
  | 0 => 0
  | count + 1 => 1 ||| (rungs step count <<< step)

/-- The numbers on stretches, as bits. -/
def bitmap : List (Nat × Nat × Nat) → Nat
  | [] => 0
  | (first, last, step) :: rest =>
    (rungs step ((last + step - first) / step) <<< first) ||| bitmap rest

theorem testBit_one_eq (n : Nat) : Nat.testBit 1 n = (n == 0) := by
  rw [Bool.eq_iff_iff, Nat.testBit_one_eq_true_iff_self_eq_zero, beq_iff_eq]

theorem testBit_rungs {step : Nat} (hstep : 0 < step) (count n : Nat) :
    (rungs step count).testBit n = (n % step == 0 && decide (n / step < count)) := by
  induction count generalizing n with
  | zero => simp [rungs]
  | succ count ih =>
    rw [rungs, Nat.testBit_or, Nat.testBit_shiftLeft, ih, testBit_one_eq]
    by_cases hn : n < step
    · have hdiv : n / step = 0 := Nat.div_eq_of_lt hn
      have hmod : n % step = n := Nat.mod_eq_of_lt hn
      have hle : ¬ step ≤ n := by omega
      simp [hdiv, hmod, hle]
    · -- a number behind the first rung is one step above a rung of the shorter ladder
      obtain ⟨k, rfl⟩ : ∃ k, n = k + step := ⟨n - step, by omega⟩
      have hzero : (k + step == 0) = false := beq_false_of_ne (by omega)
      have hdiv : (k + step) / step = k / step + 1 := Nat.add_div_right k hstep
      simp [hzero, hdiv]

/-- A rung lies on a stretch exactly if it is not behind the last number. -/
theorem div_lt_count_iff {first last step n : Nat} (hstep : 0 < step) (hfirst : first ≤ n)
    (hmod : (n - first) % step = 0) :
    (n - first) / step < (last + step - first) / step ↔ n ≤ last := by
  obtain ⟨k, hk⟩ := Nat.dvd_of_mod_eq_zero hmod
  have hcomm : step * (k + 1) = step * k + step := Nat.mul_succ step k
  rw [hk, Nat.mul_div_cancel_left k hstep, ← Nat.succ_le_iff, Nat.le_div_iff_mul_le hstep,
    Nat.mul_comm, Nat.succ_eq_add_one]
  omega

theorem testBit_bitmap {stretches : List (Nat × Nat × Nat)} (h : ∀ s ∈ stretches, 0 < s.2.2)
    (n : Nat) : (bitmap stretches).testBit n = onStretches stretches n := by
  induction stretches with
  | nil => simp [bitmap, onStretches]
  | cons s rest ih =>
    obtain ⟨first, last, step⟩ := s
    obtain ⟨hstep, hrest⟩ := List.forall_mem_cons.mp h
    rw [bitmap, Nat.testBit_or, ih hrest, Nat.testBit_shiftLeft, testBit_rungs hstep]
    simp only [onStretches, List.any_cons]
    congr 1
    by_cases hfirst : first ≤ n
    · by_cases hmod : (n - first) % step = 0
      · simp [hfirst, hmod, div_lt_count_iff hstep hfirst hmod]
      · simp [beq_false_of_ne hmod]
    · simp [hfirst]

variable {xs ys : List (Nat × Nat × Nat)} {n : Nat}

/-- Stretches without a common bit have no common number. -/
theorem onStretches_eq_false (hx : ∀ s ∈ xs, 0 < s.2.2) (hy : ∀ s ∈ ys, 0 < s.2.2)
    (happart : bitmap xs &&& bitmap ys = 0) (hn : onStretches xs n = true) :
    onStretches ys n = false := by
  have hbit := congrArg (Nat.testBit · n) happart
  simpa [testBit_bitmap hx, testBit_bitmap hy, hn] using hbit

/-- Stretches whose bits are among those of others have their numbers among those of the others. -/
theorem onStretches_of_subset (hx : ∀ s ∈ xs, 0 < s.2.2) (hy : ∀ s ∈ ys, 0 < s.2.2)
    (hsubset : bitmap xs ||| bitmap ys = bitmap ys) (hn : onStretches xs n = true) :
    onStretches ys n = true := by
  have hbit := congrArg (Nat.testBit · n) hsubset
  simpa [testBit_bitmap hx, testBit_bitmap hy, hn] using hbit

/-! ## The tables -/

/-- The characters with a lower-case form of one other character. -/
def changing : List (Nat × Nat × Nat) :=
  CaseTable.lowered.map fun (first, last, step, _) => (first, last, step)

/-- The lower-case forms. -/
def forms : List (Nat × Nat × Nat) :=
  CaseTable.lowered.map fun (first, last, step, distance) =>
    ((first + distance).toNat, (last + distance).toNat, step)

/-- The letters in title case: each is written as two letters, of which the first is upper case. -/
def titles : List (Nat × Nat × Nat) :=
  [(453, 459, 3), (498, 498, 1), (8072, 8079, 1), (8088, 8095, 1), (8104, 8111, 1),
    (8124, 8140, 16), (8188, 8188, 1)]

/-- What is relied on of the tables, found by evaluating them once: steps lead on, distances lead from
characters to characters, forms have no further form, what has another form is upper case or in title
case, and a few characters are as they should be. -/
theorem tables_fit :
    ((∀ s ∈ changing, 0 < s.2.2) ∧ (∀ s ∈ forms, 0 < s.2.2) ∧ (∀ s ∈ titles, 0 < s.2.2) ∧
      ∀ s ∈ CaseTable.upper, 0 < s.2.2) ∧
    (∀ e ∈ CaseTable.lowered, 0 ≤ e.1 + e.2.2.2 ∧ (e.2.1 + e.2.2.2 < 0xd800 ∨
      0xdfff < e.1 + e.2.2.2 ∧ e.2.1 + e.2.2.2 < 0x110000)) ∧
    (bitmap forms &&& bitmap changing = 0 ∧ onStretches forms 0x130 = false) ∧
    (bitmap changing ||| bitmap (CaseTable.upper ++ titles) = bitmap (CaseTable.upper ++ titles) ∧
      bitmap titles ||| bitmap changing = bitmap changing ∧
      bitmap titles &&& bitmap CaseTable.upper = 0) ∧
    (isUpper '\u0130' = true ∧ lowerChar 'i' = ['i'] ∧ lowerChar '\u0307' = ['\u0307'] ∧
      lowerChar 'Σ' = ['σ'] ∧ lowerChar '-' = ['-']) := by
  decide +kernel

theorem step_pos_of_mem_changing : ∀ s ∈ changing, 0 < s.2.2 := tables_fit.1.1

theorem step_pos_of_mem_forms : ∀ s ∈ forms, 0 < s.2.2 := tables_fit.1.2.1

theorem step_pos_of_mem_titles : ∀ s ∈ titles, 0 < s.2.2 := tables_fit.1.2.2.1

theorem step_pos_of_mem_upper : ∀ s ∈ CaseTable.upper, 0 < s.2.2 := tables_fit.1.2.2.2

theorem step_pos_of_mem_upper_titles : ∀ s ∈ CaseTable.upper ++ titles, 0 < s.2.2 := by
  intro s hs
  rcases List.mem_append.mp hs with hs | hs
  · exact step_pos_of_mem_upper s hs
  · exact step_pos_of_mem_titles s hs

/-- A distance leads from a character to a character. -/
theorem distance_of_mem_lowered : ∀ e ∈ CaseTable.lowered,
    0 ≤ e.1 + e.2.2.2 ∧ (e.2.1 + e.2.2.2 < 0xd800 ∨
      0xdfff < e.1 + e.2.2.2 ∧ e.2.1 + e.2.2.2 < 0x110000) :=
  tables_fit.2.1

theorem forms_apart_changing : bitmap forms &&& bitmap changing = 0 := tables_fit.2.2.1.1

theorem dotted_apart_forms : onStretches forms 0x130 = false := tables_fit.2.2.1.2

theorem changing_subset : bitmap changing ||| bitmap (CaseTable.upper ++ titles) =
    bitmap (CaseTable.upper ++ titles) :=
  tables_fit.2.2.2.1.1

theorem titles_subset : bitmap titles ||| bitmap changing = bitmap changing :=
  tables_fit.2.2.2.1.2.1

theorem titles_apart_upper : bitmap titles &&& bitmap CaseTable.upper = 0 :=
  tables_fit.2.2.2.1.2.2

theorem isUpper_dotted : isUpper '\u0130' = true := tables_fit.2.2.2.2.1

theorem lowerChar_i : lowerChar 'i' = ['i'] := tables_fit.2.2.2.2.2.1

theorem lowerChar_dot : lowerChar '\u0307' = ['\u0307'] := tables_fit.2.2.2.2.2.2.1

theorem lowerChar_sigma : lowerChar 'Σ' = ['σ'] := tables_fit.2.2.2.2.2.2.2.1

theorem lowerChar_hyphen : lowerChar '-' = ['-'] := tables_fit.2.2.2.2.2.2.2.2

/-! ## Characters -/

/-- Is the character a letter in title case? -/
def isTitle (c : Char) : Bool := onStretches titles c.toNat

/-- A character on a stretch of the table leads to a character among the lower-case forms. -/
theorem onStretches_forms {first last step n : Nat} {distance : Int}
    (hmem : (first, last, step, distance) ∈ CaseTable.lowered)
    (hn : (first ≤ n && n ≤ last && (n - first) % step == 0) = true) :
    onStretches forms (Char.ofNat (n + distance).toNat).toNat = true := by
  obtain ⟨hnonneg, hvalid⟩ := distance_of_mem_lowered _ hmem
  simp only [Bool.and_eq_true, decide_eq_true_eq, beq_iff_eq] at hn
  obtain ⟨⟨hfirst, hlast⟩, hmod⟩ := hn
  dsimp only at hnonneg hvalid
  have hchar : (Char.ofNat (n + distance).toNat).toNat = (n + distance).toNat := by
    have hscalar : (n + distance).toNat.isValidChar := by
      simp only [Nat.isValidChar]
      omega
    rw [Char.ofNat, dif_pos hscalar]
    rfl
  have hstep : (n + distance).toNat - (first + distance).toNat = n - first := by omega
  rw [hchar]
  refine List.any_eq_true.mpr ⟨_, List.mem_map.mpr ⟨_, hmem, rfl⟩, ?_⟩
  simp only [Bool.and_eq_true, decide_eq_true_eq, beq_iff_eq, hstep, hmod, and_true]
  omega

/-- A character has a form of two characters, or none but itself, or that of the table. -/
theorem lowerChar_cases (c : Char) :
    (c = '\u0130' ∧ lowerChar c = ['i', '\u0307']) ∨
      (c ≠ '\u0130' ∧ onStretches changing c.toNat = false ∧ lowerChar c = [c]) ∨
      (onStretches changing c.toNat = true ∧
        ∃ d, lowerChar c = [d] ∧ onStretches forms d.toNat = true) := by
  by_cases hdotted : c = '\u0130'
  · exact .inl ⟨hdotted, by rw [lowerChar, if_pos hdotted]⟩
  · right
    have hchanging : onStretches changing c.toNat = CaseTable.lowered.any
        fun (first, last, step, _) =>
          first ≤ c.toNat && c.toNat ≤ last && (c.toNat - first) % step == 0 := by
      simp only [onStretches, changing, List.any_map]
      rfl
    rw [hchanging, lowerChar, if_neg hdotted]
    split
    · next first last step distance hfound =>
      right
      have hmem := List.mem_of_find?_eq_some hfound
      have hon := List.find?_some hfound
      exact ⟨List.any_eq_true.mpr ⟨_, hmem, hon⟩, _, rfl, onStretches_forms hmem hon⟩
    · next hnone =>
      left
      refine ⟨hdotted, ?_, rfl⟩
      rw [List.any_eq_false]
      exact List.find?_eq_none.mp hnone

/-- The settled characters are those without another lower-case form. -/
theorem lowerChar_eq_self_iff {c : Char} :
    lowerChar c = [c] ↔ c ≠ '\u0130' ∧ onStretches changing c.toNat = false := by
  rcases lowerChar_cases c with ⟨rfl, hform⟩ | ⟨hne, hchanging, hform⟩ | ⟨hchanging, d, hform, hd⟩
  · simp [hform]
  · simp [hform, hne, hchanging]
  · have hne : c ≠ d := by
      rintro rfl
      have := onStretches_eq_false step_pos_of_mem_forms step_pos_of_mem_changing
        forms_apart_changing hd
      rw [hchanging] at this
      cases this
    simp [hform, hchanging, hne.symm]

/-- Lower-case forms are settled. -/
theorem lowerChar_of_mem_lowerChar {c d : Char} (h : d ∈ lowerChar c) : lowerChar d = [d] := by
  rcases lowerChar_cases c with ⟨rfl, hform⟩ | ⟨hne, hchanging, hform⟩ | ⟨-, e, hform, he⟩
  · rw [hform] at h
    simp only [List.mem_cons, List.not_mem_nil, or_false] at h
    rcases h with rfl | rfl
    · exact lowerChar_i
    · exact lowerChar_dot
  · rw [hform, List.mem_singleton] at h
    rw [h, hform]
  · rw [hform, List.mem_singleton] at h
    subst h
    refine lowerChar_eq_self_iff.mpr ⟨?_, onStretches_eq_false step_pos_of_mem_forms
      step_pos_of_mem_changing forms_apart_changing he⟩
    rintro rfl
    have hdotted := dotted_apart_forms
    rw [show (0x130 : Nat) = '\u0130'.toNat from rfl, he] at hdotted
    cases hdotted

/-- The letters in title case are the characters that are neither upper case nor settled. -/
theorem isTitle_iff {c : Char} : isTitle c = true ↔ isUpper c = false ∧ lowerChar c ≠ [c] := by
  constructor
  · intro htitle
    have hchanging := onStretches_of_subset step_pos_of_mem_titles step_pos_of_mem_changing
      titles_subset htitle
    refine ⟨onStretches_eq_false step_pos_of_mem_titles step_pos_of_mem_upper titles_apart_upper
      htitle, ?_⟩
    rw [ne_eq, lowerChar_eq_self_iff, hchanging]
    simp
  · rintro ⟨hupper, hne⟩
    have hdotted : c ≠ '\u0130' := by
      rintro rfl
      rw [isUpper_dotted] at hupper
      cases hupper
    have hchanging : onStretches changing c.toNat = true := by
      rw [ne_eq, lowerChar_eq_self_iff, not_and, Bool.not_eq_false] at hne
      exact hne hdotted
    have hboth := onStretches_of_subset step_pos_of_mem_changing step_pos_of_mem_upper_titles
      changing_subset hchanging
    have hsplit : (isUpper c || isTitle c) = true := by
      rw [onStretches, List.any_append] at hboth
      exact hboth
    rwa [hupper, Bool.false_or] at hsplit

theorem lowerChar_ne_nil (c : Char) : lowerChar c ≠ [] := by
  rcases lowerChar_cases c with ⟨-, hform⟩ | ⟨-, -, hform⟩ | ⟨-, d, hform, -⟩ <;> simp [hform]

/-! ## Texts -/

/-- The form of a character between others. A capital sigma has another form at the end of a word;
the rule says where words end. -/
def formAt (isFinal : List Char → List Char → Bool) (before : List Char) (c : Char)
    (after : List Char) : List Char :=
  if c = 'Σ' then [if isFinal before after then 'ς' else 'σ'] else lowerChar c

/-- The characters in lower case, behind others. -/
def lowerBehind (isFinal : List Char → List Char → Bool) (before : List Char) :
    List Char → List Char
  | [] => []
  | c :: after => formAt isFinal before c after ++ lowerBehind isFinal (before ++ [c]) after

/-- The text in lower case, by a rule for capital sigmas. -/
def lowerBy (isFinal : List Char → List Char → Bool) (s : String) : String :=
  String.ofList (lowerBehind isFinal [] s.toList)

variable (isFinal : List Char → List Char → Bool) (before : List Char)

theorem formAt_ne_nil (c : Char) (after : List Char) : formAt isFinal before c after ≠ [] := by
  unfold formAt
  split
  · simp
  · exact lowerChar_ne_nil c

/-- Whatever the rule, the same characters are settled. -/
theorem formAt_eq_self_iff (c : Char) (after : List Char) :
    formAt isFinal before c after = [c] ↔ lowerChar c = [c] := by
  unfold formAt
  split
  · next hsigma =>
    subst hsigma
    rw [lowerChar_sigma]
    cases isFinal before after <;> decide
  · rfl

theorem length_le_length_lowerBehind (cs : List Char) :
    cs.length ≤ (lowerBehind isFinal before cs).length := by
  induction cs generalizing before with
  | nil => simp
  | cons c cs ih =>
    have hform := List.length_pos_iff.mpr (formAt_ne_nil isFinal before c cs)
    have hrest := ih (before ++ [c])
    simp only [lowerBehind, List.length_append, List.length_cons]
    omega

/-- Characters stay as they are exactly if each of them is settled: none of the forms can make up
for another that is longer. -/
theorem lowerBehind_eq_self_iff {cs : List Char} :
    lowerBehind isFinal before cs = cs ↔ ∀ c ∈ cs, lowerChar c = [c] := by
  induction cs generalizing before with
  | nil => simp [lowerBehind]
  | cons c cs ih =>
    rw [List.forall_mem_cons, ← ih (before ++ [c]), lowerBehind,
      ← formAt_eq_self_iff isFinal before c cs]
    constructor
    · intro h
      have hlength := congrArg List.length h
      have hform := List.length_pos_iff.mpr (formAt_ne_nil isFinal before c cs)
      have hrest := length_le_length_lowerBehind isFinal (before ++ [c]) cs
      simp only [List.length_append, List.length_cons] at hlength
      have hone : (formAt isFinal before c cs).length = [c].length := by
        simp only [List.length_singleton]
        omega
      exact List.append_inj h hone
    · rintro ⟨hform, hrest⟩
      rw [hform, hrest]
      rfl

/-- A text is in lower case exactly if its characters are settled. -/
theorem lowerBy_eq_self_iff {s : String} :
    lowerBy isFinal s = s ↔ ∀ c ∈ s.toList, lowerChar c = [c] := by
  rw [← lowerBehind_eq_self_iff isFinal [], lowerBy, ← String.toList_inj, String.toList_ofList]

/-- Without the form for the end of a word each character is on its own. -/
theorem lower_eq_lowerBy (s : String) : lower s = lowerBy (fun _ _ => false) s := by
  have hchars (before cs : List Char) :
      lowerBehind (fun _ _ => false) before cs = cs.flatMap lowerChar := by
    induction cs generalizing before with
    | nil => rfl
    | cons c cs ih =>
      have hform : formAt (fun _ _ => false) before c cs = lowerChar c := by
        unfold formAt
        split
        · next hsigma => rw [hsigma, lowerChar_sigma, if_neg Bool.false_ne_true]
        · rfl
      rw [lowerBehind, hform, ih, List.flatMap_cons]
  rw [lower, lowerBy, hchars]

end CustomElement.Text
