-- SUMMARY: Strings and flat objects that are printed with one item a line are in ASCII and are read back.
import Mathlib.Data.List.Basic
import CustomElement.Json.Printer
import CustomElement.Json.Reader
import CustomElement.Proofs.Text.Offsets

/-! ## Documents that are read back

A string is read back whatever its characters are: printing escapes everything outside printable
ASCII, and reading undoes every kind of escape. An object is flat if its fields hold texts, truth
values and `null` only; printed as a document, it is read back as well. -/

namespace CustomElement.Json

open Text

/-! ## Escapes by number -/

theorem hexValue?_hexDigit : ∀ d < 16, hexValue? (hexDigit d) = some d := by decide

theorem readHexDigits_zero {n d : Nat} (hd : d < 16) (rest : List Char) :
    readHexDigits 0 n (hexDigit d :: rest) = .ok (n * 16 + d, hexDigit d :: rest) := by
  rw [readHexDigits.eq_def]
  simp only [hexValue?_hexDigit d hd]

theorem readHexDigits_succ {left n d : Nat} (hd : d < 16) (rest : List Char) :
    readHexDigits (left + 1) n (hexDigit d :: rest) = readHexDigits left (n * 16 + d) rest := by
  rw [readHexDigits.eq_def]
  simp only [hexValue?_hexDigit d hd]

/-- The digits of a number are read as that number. What is left begins with the last digit. -/
theorem exists_readHex4_eq {n : Nat} (h : n < 0x10000) (rest : List Char) :
    ∃ last, readHex4 (hexDigits n 4 ++ rest) = .ok (n, last :: rest) := by
  have hdigits : hexDigits n 4 = [hexDigit (n / 16 / 16 / 16 % 16), hexDigit (n / 16 / 16 % 16),
      hexDigit (n / 16 % 16), hexDigit (n % 16)] := by simp [hexDigits]
  have hmod (k : Nat) : k % 16 < 16 := Nat.mod_lt k (by decide)
  have hlong : ¬ byteLength ((hexDigits n 4 ++ rest).take 4) < 4 := by
    have := length_le_byteLength ((hexDigits n 4 ++ rest).take 4)
    simp [hdigits] at this ⊢
    omega
  refine ⟨hexDigit (n % 16), ?_⟩
  rw [readHex4, if_neg hlong, hdigits]
  simp only [List.cons_append, List.nil_append]
  rw [readHexDigits_succ (hmod _), readHexDigits_succ (hmod _), readHexDigits_succ (hmod _),
    readHexDigits_zero (hmod _)]
  congr 2
  omega

/-- A character among the first 65536 is read back from its number. -/
theorem readUnicode_single (c : Char) (h : c.toNat < 0x10000) (rest : List Char) :
    readUnicode (hexDigits c.toNat 4 ++ rest) = .ok (c, rest) := by
  obtain ⟨last, hhex⟩ := exists_readHex4_eq h rest
  have hvalid : c.toNat < 0xd800 ∨ 0xdfff < c.toNat := c.valid.imp_right (·.1)
  have hlow : ¬ (0xdc00 ≤ c.toNat ∧ c.toNat ≤ 0xdfff) := by omega
  have hhigh : ¬ (0xd800 ≤ c.toNat ∧ c.toNat ≤ 0xdbff) := by omega
  simp [readUnicode, hhex, hlow, hhigh, bind, Except.bind]

/-- A character beyond the first 65536 is that of the pair of its two numbers. -/
theorem pairChar_eq (c : Char) (h : 0x10000 ≤ c.toNat) :
    pairChar (0xd800 + (c.toNat - 0x10000) / 0x400) (0xdc00 + (c.toNat - 0x10000) % 0x400) = c := by
  have hwhole : (0xd800 + (c.toNat - 0x10000) / 0x400 - 0xd800) * 0x400 +
      (0xdc00 + (c.toNat - 0x10000) % 0x400 - 0xdc00) + 0x10000 = c.toNat := by omega
  rw [pairChar, hwhole, Char.ofNat_toNat]

theorem readUnicode_pair {n m : Nat} (hn : 0xd800 ≤ n ∧ n ≤ 0xdbff) (hm : 0xdc00 ≤ m ∧ m ≤ 0xdfff)
    (rest : List Char) :
    readUnicode (hexDigits n 4 ++ ('\\' :: 'u' :: (hexDigits m 4 ++ rest))) =
      .ok (pairChar n m, rest) := by
  obtain ⟨last, hfirst⟩ := exists_readHex4_eq (n := n) (by omega)
    ('\\' :: 'u' :: (hexDigits m 4 ++ rest))
  obtain ⟨last', hsecond⟩ := exists_readHex4_eq (n := m) (by omega) rest
  have hhigh : ¬ (0xdc00 ≤ n ∧ n ≤ 0xdfff) := by omega
  simp [readUnicode, hfirst, hsecond, hhigh, hn, hm, bind, Except.bind]

/-- A character beyond the first 65536 is read back from its two numbers. -/
theorem readUnicode_beyond (c : Char) (h : 0x10000 ≤ c.toNat) (rest : List Char) :
    readUnicode (hexDigits (0xd800 + (c.toNat - 0x10000) / 0x400) 4 ++
      ('\\' :: 'u' :: (hexDigits (0xdc00 + (c.toNat - 0x10000) % 0x400) 4 ++ rest))) =
      .ok (c, rest) := by
  have hvalid : c.toNat < 0xd800 ∨ 0xdfff < c.toNat ∧ c.toNat < 0x110000 := c.valid
  rw [readUnicode_pair ⟨Nat.le_add_right _ _, by omega⟩ ⟨Nat.le_add_right _ _, by omega⟩,
    pairChar_eq c h]

/-! ## Strings -/

/-- A character that stands for itself. -/
theorem readChars_self {c : Char} (hquote : c ≠ '"') (hslash : c ≠ '\\') (hcontrol : 32 ≤ c.toNat)
    (fuel : Nat) (rest : List Char) :
    readChars (fuel + 1) (c :: rest) = (readChars fuel rest).map fun (s, rest) => (c :: s, rest) := by
  have hno : ¬ c.toNat < 32 := by omega
  rw [readChars]
  · rw [if_neg hno]
  · exact hquote
  · exact hslash

/-- An escape. -/
theorem readChars_escape {c : Char} {cs rest : List Char} (h : readEscape cs = .ok (c, rest))
    (fuel : Nat) :
    readChars (fuel + 1) ('\\' :: cs) =
      (readChars fuel rest).map fun (s, rest) => (c :: s, rest) := by
  rw [readChars.eq_def]
  simp only [h, bind, Except.bind]
  cases readChars fuel rest <;> rfl

theorem readChars_unicodeEscape {n : Nat} {c : Char} {cs rest : List Char}
    (h : readUnicode (hexDigits n 4 ++ cs) = .ok (c, rest)) (fuel : Nat) :
    readChars (fuel + 1) (unicodeEscape n ++ cs) =
      (readChars fuel rest).map fun (s, rest) => (c :: s, rest) := by
  have hescape : readEscape ('u' :: (hexDigits n 4 ++ cs)) = .ok (c, rest) := h
  exact readChars_escape hescape fuel

/-- A character is read back from what it is printed as. -/
theorem readChars_escapeChar (c : Char) (fuel : Nat) (rest : List Char) :
    readChars (fuel + 1) (escapeChar c ++ rest) =
      (readChars fuel rest).map fun (s, rest) => (c :: s, rest) := by
  unfold escapeChar
  split_ifs with hself hn hr ht hb hf
  · apply readChars_escape
    rcases by simpa using hself with rfl | rfl <;> rfl
  · exact readChars_escape (hn ▸ rfl) fuel
  · exact readChars_escape (hr ▸ rfl) fuel
  · exact readChars_escape (ht ▸ rfl) fuel
  · exact readChars_escape (hb ▸ rfl) fuel
  · exact readChars_escape (hf ▸ rfl) fuel
  · obtain ⟨hquote, hslash⟩ : c ≠ '"' ∧ c ≠ '\\' := by simpa using hself
    dsimp only
    split_ifs with hascii hsmall
    · simp only [Bool.and_eq_true, decide_eq_true_eq] at hascii
      exact readChars_self hquote hslash hascii.1 fuel rest
    · exact readChars_unicodeEscape (readUnicode_single c hsmall rest) fuel
    · rw [List.append_assoc]
      exact readChars_unicodeEscape (readUnicode_beyond c (by omega) rest) fuel

theorem length_pos_escapeChar (c : Char) : 0 < (escapeChar c).length := by
  unfold escapeChar
  dsimp only
  split_ifs <;> simp [unicodeEscape]

/-- Characters are read back up to the quote behind them. -/
theorem readChars_flatMap {cs : List Char} {fuel : Nat} (hfuel : cs.length < fuel)
    (rest : List Char) : readChars fuel (cs.flatMap escapeChar ++ '"' :: rest) = .ok (cs, rest) := by
  induction cs generalizing fuel with
  | nil =>
    obtain ⟨fuel, rfl⟩ := Nat.exists_eq_succ_of_ne_zero (Nat.ne_of_gt hfuel)
    rfl
  | cons c cs ih =>
    obtain ⟨fuel, rfl⟩ := Nat.exists_eq_succ_of_ne_zero (Nat.ne_zero_of_lt hfuel)
    rw [List.flatMap_cons, List.append_assoc, readChars_escapeChar,
      ih (Nat.lt_of_succ_lt_succ hfuel)]
    rfl

/-- The characters of a string in quotes, behind the first quote. -/
def quotedTail (s : String) : List Char := s.toList.flatMap escapeChar ++ ['"']

theorem toList_printString (s : String) : (printString s).toList = '"' :: quotedTail s := by
  rw [printString, String.toList_ofList, quotedTail]

theorem length_lt_length_quotedTail (s : String) : s.toList.length < (quotedTail s).length := by
  have hlength (cs : List Char) : cs.length ≤ (cs.flatMap escapeChar).length := by
    induction cs with
    | nil => exact Nat.le_refl _
    | cons c cs ih =>
      have hc := length_pos_escapeChar c
      rw [List.flatMap_cons, List.length_append, List.length_cons]
      omega
  have := hlength s.toList
  rw [quotedTail, List.length_append, List.length_singleton]
  omega

/-- A string is read back. -/
theorem readString_quotedTail (s : String) (rest : List Char) :
    readString (quotedTail s ++ rest) = .ok (s, rest) := by
  have hlength := length_lt_length_quotedTail s
  have hfuel : s.toList.length < (quotedTail s ++ rest).length + 1 := by
    rw [List.length_append]
    omega
  have hchars : readChars ((quotedTail s ++ rest).length + 1) (quotedTail s ++ rest) =
      .ok (s.toList, rest) := by
    have htail : quotedTail s ++ rest = s.toList.flatMap escapeChar ++ '"' :: rest := by
      rw [quotedTail, List.append_assoc, List.singleton_append]
    rw [htail] at hfuel ⊢
    exact readChars_flatMap hfuel rest
  rw [readString, hchars]
  simp only [Except.map, String.ofList_toList]

/-- A key is read back. -/
theorem readKey_quotedTail (key : String) (rest : List Char) :
    readKey (quotedTail key ++ ':' :: rest) = .ok (key, rest) := by
  have hblank : skipBlanks (':' :: rest) = ':' :: rest := rfl
  rw [readKey, readString_quotedTail]
  simp only [bind, Except.bind, hblank]

/-! ### Characters of strings -/

/-- The character is printable ASCII or a line feed. -/
def InAscii (c : Char) : Prop := c = '\n' ∨ 32 ≤ c.toNat ∧ c.toNat ≤ 126

instance (c : Char) : Decidable (InAscii c) :=
  inferInstanceAs (Decidable (c = '\n' ∨ 32 ≤ c.toNat ∧ c.toNat ≤ 126))

theorem inAscii_of_all {cs : List Char} (h : (cs.all fun c => decide (InAscii c)) = true) :
    ∀ c ∈ cs, InAscii c := by
  simpa using h

theorem inAscii_hexDigit : ∀ d < 16, InAscii (hexDigit d) := by decide

theorem inAscii_hexDigits (n width : Nat) : ∀ c ∈ hexDigits n width, InAscii c := by
  induction width generalizing n with
  | zero => simp [hexDigits]
  | succ width ih =>
    have hlast := inAscii_hexDigit (n % 16) (Nat.mod_lt n (by decide))
    rw [hexDigits, List.forall_mem_append]
    exact ⟨ih (n / 16), by simpa using hlast⟩

theorem inAscii_unicodeEscape (n : Nat) : ∀ c ∈ unicodeEscape n, InAscii c := by
  rw [unicodeEscape, List.forall_mem_cons, List.forall_mem_cons]
  exact ⟨by decide, by decide, inAscii_hexDigits n 4⟩

/-- Whatever a character is, it is printed in ASCII. -/
theorem inAscii_escapeChar (c : Char) : ∀ x ∈ escapeChar c, InAscii x := by
  unfold escapeChar
  split_ifs with hself hn hr ht hb hf
  · rcases by simpa using hself with rfl | rfl <;> exact inAscii_of_all (by decide)
  · exact inAscii_of_all (by decide)
  · exact inAscii_of_all (by decide)
  · exact inAscii_of_all (by decide)
  · exact inAscii_of_all (by decide)
  · exact inAscii_of_all (by decide)
  · dsimp only
    split_ifs with hascii hsmall
    · simp only [Bool.and_eq_true, decide_eq_true_eq] at hascii
      exact List.forall_mem_singleton.mpr (Or.inr hascii)
    · exact inAscii_unicodeEscape _
    · exact List.forall_mem_append.mpr ⟨inAscii_unicodeEscape _, inAscii_unicodeEscape _⟩

theorem inAscii_quotedTail (s : String) : ∀ c ∈ quotedTail s, InAscii c := by
  rw [quotedTail, List.forall_mem_append, List.forall_mem_flatMap]
  exact ⟨fun c _ => inAscii_escapeChar c, inAscii_of_all (by decide)⟩

/-! ## Flat objects -/

/-- Does a value hold no other values, and no number? -/
def Value.isFlat : Value → Bool
  | .null | .bool _ | .string _ => true
  | _ => false

section

variable {v : Value} {style : Style} {indent : Nat}

/-- A flat value begins with no blank. -/
theorem skipBlanks_print (hv : v.isFlat = true) (rest : List Char) :
    skipBlanks ((v.print style indent).toList ++ rest) = (v.print style indent).toList ++ rest := by
  cases v with
  | null => simp [Value.print, skipBlanks, isBlank]
  | bool b => cases b <;> simp [Value.print, skipBlanks, isBlank]
  | string s =>
    rw [Value.print, toList_printString]
    rfl
  | _ => cases hv

/-- A flat value is read back. -/
theorem readValue_print (hv : v.isFlat = true) (fuel depth : Nat) (rest : List Char) :
    readValue (fuel + 1) depth (' ' :: ((v.print style indent).toList ++ rest)) = .ok (v, rest) := by
  have hblank : skipBlanks (' ' :: ((v.print style indent).toList ++ rest)) =
      (v.print style indent).toList ++ rest := skipBlanks_print hv rest
  rw [readValue, hblank]
  cases v with
  | null => simp [Value.print, readWord, readLetters, Except.map]
  | bool b => cases b <;> simp [Value.print, readWord, readLetters, Except.map]
  | string s =>
    rw [Value.print, toList_printString]
    simp only [List.cons_append, readString_quotedTail, Except.map]
  | _ => cases hv

theorem inAscii_print (hv : v.isFlat = true) :
    ∀ c ∈ (v.print style indent).toList, InAscii c := by
  cases v with
  | null =>
    rw [Value.print]
    exact inAscii_of_all (by decide)
  | bool b =>
    cases b with
    | true | false =>
      rw [Value.print]
      exact inAscii_of_all (by decide)
  | string s =>
    rw [Value.print, toList_printString]
    exact List.forall_mem_cons.mpr ⟨by decide, inAscii_quotedTail s⟩
  | _ => cases hv

end

theorem skipBlanks_line (cs : List Char) :
    skipBlanks ('\n' :: ' ' :: ' ' :: '"' :: cs) = '"' :: cs := rfl

/-- The text of fields, one a line, behind the colon of the first. -/
def fieldsTail (v : Value) : List (String × Value) → List Char
  | [] => ' ' :: (v.print .indented 1).toList
  | (name, w) :: fields =>
    ' ' :: ((v.print .indented 1).toList ++
      ',' :: '\n' :: ' ' :: ' ' :: '"' :: (quotedTail name ++ ':' :: fieldsTail w fields))

theorem toList_printFields (name : String) (v : Value) (fields : List (String × Value)) :
    ((",\n  ").intercalate (printFields .indented 1 ((name, v) :: fields))).toList =
      '"' :: (quotedTail name ++ ':' :: fieldsTail v fields) := by
  have hfield (name : String) (v : Value) :
      (printString name ++ Style.indented.colon ++ v.print .indented 1).toList =
        '"' :: (quotedTail name ++ ':' :: ' ' :: (v.print .indented 1).toList) := by
    simp [toList_printString, Style.indented]
  induction fields generalizing name v with
  | nil => rw [printFields, printFields, String.intercalate_singleton, hfield, fieldsTail]
  | cons f fields ih =>
    obtain ⟨next, w⟩ := f
    rw [printFields, printFields, String.intercalate_cons_cons, ← printFields, fieldsTail,
      String.toList_append, String.toList_append, ih, hfield]
    simp

theorem length_lt_length_fieldsTail (v : Value) (fields : List (String × Value)) :
    fields.length < (fieldsTail v fields).length := by
  induction fields generalizing v with
  | nil => simp [fieldsTail]
  | cons f fields ih =>
    obtain ⟨next, w⟩ := f
    have := ih w
    simp only [fieldsTail, List.length_append, List.length_cons]
    omega

/-- Fields with flat values are read back, up to the brace behind them. -/
theorem readFields_fieldsTail {v : Value} {fields : List (String × Value)} (hv : v.isFlat = true)
    (hflat : ∀ f ∈ fields, f.2.isFlat = true) (name : String) (depth : Nat) (rest : List Char)
    (fuel : Nat) (hfuel : fields.length + 1 < fuel) :
    readFields fuel depth name (fieldsTail v fields ++ '\n' :: '\x7d' :: rest) =
      .ok ((name, v) :: fields, rest) := by
  induction fields generalizing name v fuel with
  | nil =>
    obtain ⟨fuel, rfl⟩ : ∃ k, fuel = k + 2 := Nat.exists_eq_add_of_le' hfuel
    have hend : skipBlanks ('\n' :: '\x7d' :: rest) = '\x7d' :: rest := rfl
    rw [fieldsTail, List.cons_append, readFields, readValue_print hv]
    simp only [bind, Except.bind, hend]
  | cons f fields ih =>
    obtain ⟨next, w⟩ := f
    obtain ⟨hw, hfields⟩ := List.forall_mem_cons.mp hflat
    rw [List.length_cons] at hfuel
    obtain ⟨fuel, rfl⟩ : ∃ k, fuel = k + 2 := Nat.exists_eq_add_of_le' (by omega)
    have hcomma (cs : List Char) : skipBlanks (',' :: cs) = ',' :: cs := rfl
    have hrest := ih hw hfields next (fuel + 1) (by omega)
    rw [fieldsTail, List.cons_append, List.append_assoc, readFields, readValue_print hv]
    simp only [List.cons_append, List.append_assoc, bind, Except.bind, hcomma, skipBlanks_line,
      readKey_quotedTail, hrest]

theorem inAscii_fieldsTail {v : Value} {fields : List (String × Value)} (hv : v.isFlat = true)
    (hflat : ∀ f ∈ fields, f.2.isFlat = true) : ∀ c ∈ fieldsTail v fields, InAscii c := by
  induction fields generalizing v with
  | nil =>
    rw [fieldsTail, List.forall_mem_cons]
    exact ⟨by decide, inAscii_print hv⟩
  | cons f fields ih =>
    obtain ⟨name, w⟩ := f
    obtain ⟨hw, hfields⟩ := List.forall_mem_cons.mp hflat
    simp only [fieldsTail, List.forall_mem_cons, List.forall_mem_append]
    exact ⟨by decide, inAscii_print hv, by decide, by decide, by decide, by decide, by decide,
      inAscii_quotedTail name, by decide, ih hw hfields⟩

/-- The document of an object with fields. -/
theorem toList_indented (name : String) (v : Value) (fields : List (String × Value)) :
    (Value.object ((name, v) :: fields)).indented.toList =
      '\x7b' :: '\n' :: ' ' :: ' ' :: '"' ::
        (quotedTail name ++ ':' :: (fieldsTail v fields ++ ['\n', '\x7d'])) := by
  have hcomma : Style.indented.comma ++ Style.indented.line 1 = ",\n  " := rfl
  have hfirst : Style.indented.line 1 = "\n  " := rfl
  have hlast : Style.indented.line 0 = "\n" := rfl
  have hparts : (printFields .indented 1 ((name, v) :: fields)).isEmpty = false := by
    rw [printFields, List.isEmpty_cons]
  rw [Value.indented, Value.print, enclose, hparts, Nat.zero_add, hcomma, hfirst, hlast]
  simp only [Bool.false_eq_true, if_false, String.toList_append, toList_printFields]
  simp

/-- An object of flat values is read back from the document that it is printed as. -/
theorem parse_flatObject {fields : List (String × Value)}
    (hflat : ∀ f ∈ fields, f.2.isFlat = true) :
    parse ((Value.object fields).indented ++ "\n").toList = .ok (.object fields) := by
  cases fields with
  | nil => rfl
  | cons f fields =>
    obtain ⟨name, v⟩ := f
    obtain ⟨hv, hfields⟩ := List.forall_mem_cons.mp hflat
    have hopen (cs : List Char) : skipBlanks ('\x7b' :: cs) = '\x7b' :: cs := rfl
    -- one level of the depth is used up by the object, and one unit of the fuel
    have hread := readFields_fieldsTail hv hfields name 199 ['\n']
    have hlength := length_lt_length_fieldsTail v fields
    have hline : "\n".toList = ['\n'] := rfl
    rw [String.toList_append, toList_indented, hline, parse]
    simp only [List.cons_append, List.nil_append, List.append_assoc, readValue, hopen,
      skipBlanks_line, readKey_quotedTail, bind, Except.bind, maxDepth]
    rw [hread _ (by simp only [List.length_cons, List.length_append]; omega)]
    rfl

/-- The document of a flat object is in ASCII. -/
theorem inAscii_flatObject {fields : List (String × Value)}
    (hflat : ∀ f ∈ fields, f.2.isFlat = true) :
    ∀ c ∈ ((Value.object fields).indented ++ "\n").toList, InAscii c := by
  rw [String.toList_append, List.forall_mem_append]
  refine ⟨?_, inAscii_of_all (by decide)⟩
  cases fields with
  | nil => exact inAscii_of_all (by decide)
  | cons f fields =>
    obtain ⟨name, v⟩ := f
    obtain ⟨hv, hfields⟩ := List.forall_mem_cons.mp hflat
    rw [toList_indented]
    simp only [List.forall_mem_cons, List.forall_mem_append]
    exact ⟨by decide, by decide, by decide, by decide, by decide, inAscii_quotedTail name,
      by decide, inAscii_fieldsTail hv hfields, by decide, by decide, fun _ h => nomatch h⟩

end CustomElement.Json
