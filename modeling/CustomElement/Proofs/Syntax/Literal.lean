-- SUMMARY: String literals are read back, and escaping in passes is escaping each character.
import Mathlib.Data.List.Basic
import CustomElement.Proofs.Json.Documents
import CustomElement.Syntax.Literal

/-! ## String literals that are read back

A reader of literals goes from one character to the next: every character that is printed between
the quotes takes it from where a character may begin to where the next one may begin. So the first
quote that it takes for the end is the one that was printed as the end. -/

namespace CustomElement.Syntax

open Text

/-! ## Escaping in passes

Every pass replaces one character everywhere. A later pass could replace what an earlier one wrote;
the order of the passes keeps it from doing so. -/

/-- The text with other characters in the place of one. -/
def replaceChar (c : Char) (new cs : List Char) : List Char :=
  cs.flatMap fun d => if d = c then new else [d]

/-- The text after some passes. -/
def replaceInPasses (passes : List (Char × List Char)) (cs : List Char) : List Char :=
  passes.foldl (fun cs p => replaceChar p.1 p.2 cs) cs

/-- What the first pass for a character writes in its place. -/
def replacementOf : List (Char × List Char) → Char → List Char
  | [], c => [c]
  | p :: passes, c => if c = p.1 then p.2 else replacementOf passes c

/-- The passes that escape a string, the backslash first. -/
def escapePasses : List (Char × List Char) :=
  [('\\', ['\\', '\\']), ('"', ['\\', '"']), ('\n', ['\\', 'n']), ('\r', ['\\', 'r']),
    ('\t', ['\\', 't']), ('\x08', ['\\', 'b']), ('\x0c', ['\\', 'f']), ('\x0b', ['\\', 'v']),
    ('\x00', ['\\', 'x', '0', '0']), ('\u2028', ['\\', 'u', '2', '0', '2', '8']),
    ('\u2029', ['\\', 'u', '2', '0', '2', '9'])]

section

variable {passes : List (Char × List Char)} {c : Char} {cs : List Char}

/-- A character has a pass that writes its replacement, or it has none and stays. -/
theorem replacementOf_cases (passes : List (Char × List Char)) (c : Char) :
    (c, replacementOf passes c) ∈ passes ∨
      replacementOf passes c = [c] ∧ c ∉ passes.map Prod.fst := by
  induction passes with
  | nil => exact Or.inr ⟨rfl, List.not_mem_nil⟩
  | cons p passes ih =>
    rw [replacementOf]
    split_ifs with hp
    · exact Or.inl (hp ▸ List.mem_cons_self)
    · rcases ih with hmem | ⟨hself, hne⟩
      · exact Or.inl (List.mem_cons_of_mem _ hmem)
      · exact Or.inr ⟨hself, List.not_mem_cons_of_ne_of_not_mem hp hne⟩

/-- Passes for other characters leave a text as it is. -/
theorem flatMap_replacementOf (h : ∀ p ∈ passes, p.1 ∉ cs) :
    cs.flatMap (replacementOf passes) = cs := by
  have hself : ∀ c ∈ cs, replacementOf passes c = [c] := by
    intro c hc
    rcases replacementOf_cases passes c with hmem | ⟨hself, _⟩
    · exact absurd hc (h _ hmem)
    · exact hself
  rw [List.flatMap_congr hself, List.flatMap_singleton']

/-- Passes of which none replaces what an earlier one wrote act on each character by itself. -/
theorem replaceInPasses_eq (h : passes.Pairwise fun p q => q.1 ∉ p.2) :
    replaceInPasses passes cs = cs.flatMap (replacementOf passes) := by
  induction passes generalizing cs with
  | nil => exact (List.flatMap_singleton' cs).symm
  | cons p passes ih =>
    obtain ⟨hp, hpasses⟩ := List.pairwise_cons.mp h
    have hrest : replaceInPasses (p :: passes) cs =
        replaceInPasses passes (replaceChar p.1 p.2 cs) := rfl
    rw [hrest, ih hpasses, replaceChar, List.flatMap_assoc]
    apply List.flatMap_congr
    intro c _
    rw [replacementOf]
    split_ifs
    · exact flatMap_replacementOf hp
    · exact List.flatMap_singleton _ _

end

/-- A character is escaped as the first pass for it says. -/
theorem escapeChar_eq (c : Char) : escapeChar c = replacementOf escapePasses c := rfl

/-- An escape comes from a pass; every other character stands for itself. -/
theorem escapeChar_cases (c : Char) :
    (c, escapeChar c) ∈ escapePasses ∨ escapeChar c = [c] ∧ c ∉ escapePasses.map Prod.fst := by
  rw [escapeChar_eq]
  exact replacementOf_cases escapePasses c

theorem replaceInPasses_escapePasses (cs : List Char) :
    replaceInPasses escapePasses cs = cs.flatMap escapeChar := by
  rw [replaceInPasses_eq (by decide), funext escapeChar_eq]

/-! ## Strings as units

The value of a literal is a sequence of units of sixteen bits. A character beyond the first 65536
takes two of them. -/

/-- The units of the character with a number. -/
def unitsOf (n : Nat) : List Nat :=
  if n < 0x10000 then [n] else [0xd800 + (n - 0x10000) / 0x400, 0xdc00 + (n - 0x10000) % 0x400]

/-- The characters that have some units. A unit of a pair that stands alone belongs to none. -/
def charsOf? : List Nat → Option (List Char)
  | [] => some []
  | [n] => if 0xd800 ≤ n && n ≤ 0xdfff then none else some [Char.ofNat n]
  | n :: m :: units =>
    if 0xd800 ≤ n && n ≤ 0xdbff && 0xdc00 ≤ m && m ≤ 0xdfff then
      (charsOf? units).map (Json.pairChar n m :: ·)
    else if 0xd800 ≤ n && n ≤ 0xdfff then none
    else (charsOf? (m :: units)).map (Char.ofNat n :: ·)

theorem charsOf?_unitsOf (c : Char) (units : List Nat) :
    charsOf? (unitsOf c.toNat ++ units) = (charsOf? units).map (c :: ·) := by
  have hvalid : c.toNat < 0xd800 ∨ 0xdfff < c.toNat ∧ c.toNat < 0x110000 := c.valid
  unfold unitsOf
  split_ifs with hsmall
  · have hself : ¬ (0xd800 ≤ c.toNat ∧ c.toNat ≤ 0xdfff) := by omega
    have hpair : ¬ (0xd800 ≤ c.toNat ∧ c.toNat ≤ 0xdbff) := by omega
    cases units with
    | nil => simp [charsOf?, hself]
    | cons m units => simp [charsOf?, hself, hpair]
  · have hhigh : 0xd800 + (c.toNat - 0x10000) / 0x400 ≤ 0xdbff := by omega
    have hlow : 0xdc00 + (c.toNat - 0x10000) % 0x400 ≤ 0xdfff := by omega
    simp [charsOf?, hhigh, hlow, Json.pairChar_eq c (by omega)]

/-- A string is made out from its units. -/
theorem charsOf?_flatMap_unitsOf (cs : List Char) :
    charsOf? (cs.flatMap fun c => unitsOf c.toNat) = some cs := by
  induction cs with
  | nil => rfl
  | cons c cs ih => rw [List.flatMap_cons, charsOf?_unitsOf, ih, Option.map_some]

/-! ## Reading a literal -/

/-- Does the character end a line? -/
def isLineEnd (c : Char) : Bool := c = '\n' || c = '\r' || c = '\u2028' || c = '\u2029'

/-- The character that a letter behind a backslash stands for. -/
def escapedChar (c : Char) : Char :=
  if c = 'n' then '\n'
  else if c = 'r' then '\r'
  else if c = 't' then '\t'
  else if c = 'b' then '\x08'
  else if c = 'f' then '\x0c'
  else if c = 'v' then '\x0b'
  else c

/-- Where a reader stands between the quotes of a literal. -/
inductive LiteralState where
  /-- Where a character begins. -/
  | plain
  /-- Behind a backslash. -/
  | escape
  /-- Behind an escaped zero; a digit may not follow. -/
  | zero
  /-- Behind an escaped carriage return; a line feed belongs to the same line end. -/
  | carriageReturn
  /-- Behind `\u`. -/
  | unicode
  /-- Before a hexadecimal digit and `left` more, with the number that was read so far. -/
  | digits (left value : Nat)
  /-- Between braces, with the number that was read so far if there is any digit. -/
  | braces (value : Option Nat)
  deriving DecidableEq, Repr

/-- What a character does. -/
inductive LiteralStep where
  /-- It ends the literal. -/
  | close
  /-- It adds units to the value. -/
  | more (units : List Nat) (next : LiteralState)
  deriving DecidableEq, Repr

/-- A character where one begins. The two line ends beyond ASCII may stand in a literal. -/
def plainStep (c : Char) : Option LiteralStep :=
  if c = '"' then some .close
  else if c = '\\' then some (.more [] .escape)
  else if c = '\n' || c = '\r' then none
  else some (.more (unitsOf c.toNat) .plain)

/-- A character behind a backslash. An escaped line end adds nothing, and no digit but a lone zero
may be escaped: modules are strict code. -/
def escapeStep (c : Char) : Option LiteralStep :=
  if c = '\r' then some (.more [] .carriageReturn)
  else if isLineEnd c then some (.more [] .plain)
  else if c = 'x' then some (.more [] (.digits 1 0))
  else if c = 'u' then some (.more [] .unicode)
  else if c = '0' then some (.more [0] .zero)
  else if c.isDigit then none
  else some (.more (unitsOf (escapedChar c).toNat) .plain)

/-- A hexadecimal digit, with `left` more to come. -/
def digitStep (left value : Nat) (c : Char) : Option LiteralStep :=
  (hexValue? c).map fun d =>
    match left with
    | 0 => .more [value * 16 + d] .plain
    | left + 1 => .more [] (.digits left (value * 16 + d))

/-- A hexadecimal digit between braces, or the closing brace. -/
def braceStep (value : Option Nat) (c : Char) : Option LiteralStep :=
  if c = '\x7d' then value.map fun n => .more (unitsOf n) .plain
  else match hexValue? c with
    | none => none
    | some d =>
      let n := value.getD 0 * 16 + d
      if n ≤ 0x10ffff then some (.more [] (.braces (some n))) else none

/-- What a character does at a place of a literal, unless it is a fault. -/
def LiteralState.step : LiteralState → Char → Option LiteralStep
  | plain, c => plainStep c
  | escape, c => escapeStep c
  | zero, c => if c.isDigit then none else plainStep c
  | carriageReturn, c => if c = '\n' then some (.more [] .plain) else plainStep c
  | unicode, c => if c = '\x7b' then some (.more [] (.braces none)) else digitStep 3 0 c
  | digits left value, c => digitStep left value c
  | braces value, c => braceStep value c

/-- The units up to the closing quote, and the text behind it. -/
def readUnits : LiteralState → List Char → Option (List Nat × List Char)
  | _, [] => none
  | state, c :: cs =>
    match state.step c with
    | none => none
    | some .close => some ([], cs)
    | some (.more units next) => (readUnits next cs).map (Prod.map (units ++ ·) id)

/-- The string that a literal behind its opening quote stands for, and the text behind the
literal. -/
def readLiteralTail (cs : List Char) : Option (String × List Char) := do
  let (units, rest) ← readUnits .plain cs
  let value ← charsOf? units
  some (String.ofList value, rest)

/-- The string that the literal at the start of a text stands for, and the text behind it. -/
def readLiteral : List Char → Option (String × List Char)
  | [] => none
  | c :: cs => if c = '"' then readLiteralTail cs else none

/-- The units that some characters add, and where they lead, if they do not end the literal. -/
def advance : LiteralState → List Char → Option (List Nat × LiteralState)
  | state, [] => some ([], state)
  | state, c :: cs =>
    match state.step c with
    | some (.more units next) => (advance next cs).map (Prod.map (units ++ ·) id)
    | _ => none

/-- Characters that do not end the literal add their units to what follows. -/
theorem readUnits_append {state next : LiteralState} {cs : List Char} {units : List Nat}
    (h : advance state cs = some (units, next)) (rest : List Char) :
    readUnits state (cs ++ rest) = (readUnits next rest).map (Prod.map (units ++ ·) id) := by
  induction cs generalizing state units with
  | nil =>
    cases h
    exact Option.map_id'.symm
  | cons c cs ih =>
    rw [List.cons_append, readUnits]
    rw [advance] at h
    split at h
    · next added middle hstep =>
      obtain ⟨⟨later, last⟩, hcs, hlast⟩ := Option.map_eq_some_iff.mp h
      obtain ⟨rfl, rfl⟩ := Prod.mk.inj hlast
      simp only [hstep, ih hcs, Option.map_map]
      congr 1
      funext ⟨value, rest⟩
      simp [List.append_assoc]
    · cases h

/-! ## Literals as they are printed -/

/-- A character that stands for itself is no backslash, no quote and no line end. -/
theorem of_not_mem_escapePasses {c : Char} (h : c ∉ escapePasses.map Prod.fst) :
    c ≠ '\\' ∧ c ≠ '"' ∧ isLineEnd c = false := by
  have hends : ∀ d, isLineEnd d = true → d ∈ escapePasses.map Prod.fst := by
    intro d hd
    rcases by simpa [isLineEnd] using hd with ((rfl | rfl) | rfl) | rfl <;> decide
  refine ⟨?_, ?_, Bool.eq_false_iff.mpr fun hend => h (hends c hend)⟩
  · rintro rfl
    exact h (by decide)
  · rintro rfl
    exact h (by decide)

/-- Every escape leads to where the next character begins, and adds the units of its own. -/
theorem advance_of_mem_escapePasses :
    ∀ p ∈ escapePasses, advance .plain p.2 = some (unitsOf p.1.toNat, .plain) := by decide

/-- What a character is printed as leads to where the next one begins, and adds its units. -/
theorem advance_escapeChar (c : Char) :
    advance .plain (escapeChar c) = some (unitsOf c.toNat, .plain) := by
  rcases escapeChar_cases c with hmem | ⟨hself, hne⟩
  · exact advance_of_mem_escapePasses _ hmem
  · obtain ⟨hslash, hquote, hend⟩ := of_not_mem_escapePasses hne
    obtain ⟨⟨⟨hn, hr⟩, -⟩, -⟩ : ((c ≠ '\n' ∧ c ≠ '\r') ∧ c ≠ '\u2028') ∧ c ≠ '\u2029' := by
      simpa [isLineEnd] using hend
    simp [hself, advance, LiteralState.step, plainStep, hslash, hquote, hn, hr]

theorem readUnits_escape (cs rest : List Char) :
    readUnits .plain (cs.flatMap escapeChar ++ '"' :: rest) =
      some (cs.flatMap fun c => unitsOf c.toNat, rest) := by
  induction cs with
  | nil => rfl
  | cons c cs ih =>
    rw [List.flatMap_cons, List.append_assoc, readUnits_append (advance_escapeChar c), ih]
    rfl

theorem toList_escape (s : String) : (escape s).toList = s.toList.flatMap escapeChar :=
  String.toList_ofList

/-- A literal is read back up to its closing quote, whatever stands behind it. -/
theorem readLiteralTail_escape (s : String) (rest : List Char) :
    readLiteralTail ((escape s).toList ++ '"' :: rest) = some (s, rest) := by
  rw [readLiteralTail, toList_escape, readUnits_escape]
  simp [charsOf?_flatMap_unitsOf]

/-- A literal that is read ends inside the text. -/
theorem length_lt_of_readUnits {state : LiteralState} {cs rest : List Char} {units : List Nat}
    (h : readUnits state cs = some (units, rest)) : rest.length < cs.length := by
  induction cs generalizing state units with
  | nil => cases h
  | cons c cs ih =>
    rw [readUnits] at h
    split at h
    · cases h
    · cases h
      exact Nat.lt_succ_self _
    · obtain ⟨⟨later, last⟩, hcs, hlast⟩ := Option.map_eq_some_iff.mp h
      obtain ⟨-, rfl⟩ := Prod.mk.inj hlast
      exact Nat.lt_succ_of_lt (ih hcs)

/-! ## Quotes and line ends in the escaped text -/

/-- Is there a quote in the text that is not escaped? `escaped` says that the text stands behind a
backslash. -/
def hasQuote : (escaped : Bool) → List Char → Bool
  | _, [] => false
  | true, _ :: cs => hasQuote false cs
  | false, c :: cs => c = '"' || hasQuote (c = '\\') cs

/-- A quote can only be among the characters behind what a character is printed as. -/
theorem hasQuote_escapeChar (c : Char) (cs : List Char) :
    hasQuote false (escapeChar c ++ cs) = hasQuote false cs := by
  have hpasses : ∀ p ∈ escapePasses, hasQuote false (p.2 ++ cs) = hasQuote false cs := by
    simp [escapePasses, hasQuote]
  rcases escapeChar_cases c with hmem | ⟨hself, hne⟩
  · exact hpasses _ hmem
  · obtain ⟨hslash, hquote, -⟩ := of_not_mem_escapePasses hne
    simp [hself, hasQuote, hslash, hquote]

theorem hasQuote_flatMap_escapeChar (cs : List Char) :
    hasQuote false (cs.flatMap escapeChar) = false := by
  induction cs with
  | nil => rfl
  | cons c cs ih => rw [List.flatMap_cons, hasQuote_escapeChar, ih]

theorem any_isLineEnd_escapeChar (c : Char) : (escapeChar c).any isLineEnd = false := by
  have hpasses : ∀ p ∈ escapePasses, p.2.any isLineEnd = false := by decide
  rcases escapeChar_cases c with hmem | ⟨hself, hne⟩
  · exact hpasses _ hmem
  · obtain ⟨-, -, hend⟩ := of_not_mem_escapePasses hne
    rw [hself, List.any_cons, List.any_nil, Bool.or_false, hend]

/-! ## The literal of a string -/

/-- A string is read back from its literal: the reader stops at the quote that was printed last,
whatever stands behind it. Between the quotes stand no open quote and no line end, and escaping the
string in passes is escaping each of its characters. -/
theorem stringLiteral_reads_back (s : String) (rest : List Char) :
    readLiteral ('"' :: ((escape s).toList ++ '"' :: rest)) = some (s, rest) ∧
      hasQuote false (escape s).toList = false ∧
      (escape s).toList.any isLineEnd = false ∧
      (escape s).toList = replaceInPasses escapePasses s.toList ∧
      replaceInPasses escapePasses s.toList = s.toList.flatMap escapeChar := by
  have hread : readLiteral ('"' :: ((escape s).toList ++ '"' :: rest)) = some (s, rest) :=
    readLiteralTail_escape s rest
  have hends : (escape s).toList.any isLineEnd = false := by
    rw [toList_escape, List.any_flatMap]
    exact List.any_eq_false.mpr fun c _ => by simp [any_isLineEnd_escapeChar c]
  have hpasses := replaceInPasses_escapePasses s.toList
  refine ⟨hread, ?_, hends, ?_, hpasses⟩
  · rw [toList_escape, hasQuote_flatMap_escapeChar]
  · rw [hpasses, toList_escape]

end CustomElement.Syntax
