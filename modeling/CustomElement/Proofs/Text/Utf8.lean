-- SUMMARY: Texts and their bytes: decoding and encoding undo each other, and what unifying line ends does.
import Mathlib.Data.List.Basic
import CustomElement.Text.Lines
import CustomElement.Text.Utf8

/-! ## Decoding and encoding

Bytes that are UTF-8 are the encoding of the text that is decoded from them, byte for byte. So what
is written of a text that was read differs from the bytes it was read from only where line ends were
unified. Conversely every text is decoded from its encoding, so that a text that was written is read
back if it has no carriage return. -/

namespace CustomElement.Text

/-! ## The bytes of a character -/

section Bytes

variable {n : Nat} {b₁ b₂ b₃ b₄ : UInt8}

theorem ofNat_eq_of_toNat {b : UInt8} (h : b.toNat = n) : UInt8.ofNat n = b := by
  rw [← h, UInt8.ofNat_toNat]

theorem toNat_val_ofNat (h : n.isValidChar) : (Char.ofNat n).val.toNat = n := by
  rw [Char.ofNat, dif_pos h]
  rfl

theorem utf8EncodeChar_one (hn : n ≤ 0x7f) (h₁ : b₁.toNat = n) :
    String.utf8EncodeChar (Char.ofNat n) = [b₁] := by
  have hvalid : n.isValidChar := Or.inl (by omega)
  simp only [String.utf8EncodeChar, toNat_val_ofNat hvalid]
  rw [if_pos hn, ofNat_eq_of_toNat h₁]

theorem utf8EncodeChar_two (hlow : 0x7f < n) (hhigh : n ≤ 0x7ff) (h₁ : b₁.toNat = 0xc0 + n / 64)
    (h₂ : b₂.toNat = 0x80 + n % 64) : String.utf8EncodeChar (Char.ofNat n) = [b₁, b₂] := by
  have hvalid : n.isValidChar := Or.inl (by omega)
  simp only [String.utf8EncodeChar, toNat_val_ofNat hvalid]
  rw [if_neg (by omega), if_pos hhigh, ofNat_eq_of_toNat (b := b₁) (by omega),
    ofNat_eq_of_toNat (b := b₂) (by omega)]

theorem utf8EncodeChar_three (hlow : 0x7ff < n) (hhigh : n ≤ 0xffff) (hvalid : n.isValidChar)
    (h₁ : b₁.toNat = 0xe0 + n / 4096) (h₂ : b₂.toNat = 0x80 + n / 64 % 64)
    (h₃ : b₃.toNat = 0x80 + n % 64) :
    String.utf8EncodeChar (Char.ofNat n) = [b₁, b₂, b₃] := by
  simp only [String.utf8EncodeChar, toNat_val_ofNat hvalid]
  rw [if_neg (by omega), if_neg (by omega), if_pos hhigh, ofNat_eq_of_toNat (b := b₁) (by omega),
    ofNat_eq_of_toNat (b := b₂) (by omega), ofNat_eq_of_toNat (b := b₃) (by omega)]

theorem utf8EncodeChar_four (hlow : 0xffff < n) (hhigh : n < 0x110000)
    (h₁ : b₁.toNat = 0xf0 + n / 262144) (h₂ : b₂.toNat = 0x80 + n / 4096 % 64)
    (h₃ : b₃.toNat = 0x80 + n / 64 % 64) (h₄ : b₄.toNat = 0x80 + n % 64) :
    String.utf8EncodeChar (Char.ofNat n) = [b₁, b₂, b₃, b₄] := by
  have hvalid : n.isValidChar := Or.inr ⟨by omega, hhigh⟩
  simp only [String.utf8EncodeChar, toNat_val_ofNat hvalid]
  rw [if_neg (by omega), if_neg (by omega), if_neg (by omega),
    ofNat_eq_of_toNat (b := b₁) (by omega), ofNat_eq_of_toNat (b := b₂) (by omega),
    ofNat_eq_of_toNat (b := b₃) (by omega), ofNat_eq_of_toNat (b := b₄) (by omega)]

end Bytes

/-! ## Opened characters -/

/-- Whatever bytes follow within the bounds, the character that they complete is encoded by them and
the bytes before. -/
def Completes (seen : Bytes) : Nat → Nat → Nat → Nat → Prop
  | 0, _, _, code => String.utf8EncodeChar (Char.ofNat code) = seen
  | owed + 1, low, high, code => ∀ b : UInt8, low ≤ b.toNat → b.toNat ≤ high →
    Completes (seen ++ [b]) owed 0x80 0xbf (code * 64 + b.toNat % 64)

section Opened

variable {b₁ : UInt8} {low high code : Nat}

theorem completes_two (h₁ : b₁.toNat = 0xc0 + code) (hcode : 2 ≤ code ∧ code ≤ 31) :
    Completes [b₁] 1 0x80 0xbf code := by
  intro b₂ hlow₂ hhigh₂
  exact utf8EncodeChar_two (by omega) (by omega) (by omega) (by omega)

/-- Of three bytes the second is bounded so that no shorter form and no surrogate arises. -/
theorem completes_three (h₁ : b₁.toNat = 0xe0 + code) (hcode : code ≤ 15) (hlow : 0x80 ≤ low)
    (hhigh : high ≤ 0xbf) (hshort : code = 0 → 0xa0 ≤ low) (hsurrogate : code = 13 → high ≤ 0x9f) :
    Completes [b₁] 2 low high code := by
  intro b₂ hlow₂ hhigh₂ b₃ hlow₃ hhigh₃
  refine utf8EncodeChar_three (by omega) (by omega) ?_ (by omega) (by omega) (by omega)
  rw [Nat.isValidChar]
  omega

/-- Of four bytes the second is bounded so that no shorter form and no number beyond the last
character arises. -/
theorem completes_four (h₁ : b₁.toNat = 0xf0 + code) (hcode : code ≤ 4) (hlow : 0x80 ≤ low)
    (hhigh : high ≤ 0xbf) (hshort : code = 0 → 0x90 ≤ low) (hlast : code = 4 → high ≤ 0x8f) :
    Completes [b₁] 3 low high code := by
  intro b₂ hlow₂ hhigh₂ b₃ hlow₃ hhigh₃ b₄ hlow₄ hhigh₄
  exact utf8EncodeChar_four (by omega) (by omega) (by omega) (by omega) (by omega) (by omega)

/-- A byte that opens a character is completed by those that are owed. -/
theorem completes_openChar? {start : Nat} {c : OpenChar} (h : openChar? start b₁ = some c) :
    0 < c.owed ∧ Completes [b₁] c.owed c.low c.high c.code := by
  simp only [openChar?, Bool.and_eq_true, decide_eq_true_eq, beq_iff_eq] at h
  split_ifs at h with htwo he0 hed hthree hf0 hfour hf4
  · cases h
    refine ⟨Nat.one_pos, ?_⟩
    dsimp only
    apply completes_two <;> omega
  · cases h
    refine ⟨Nat.two_pos, ?_⟩
    dsimp only
    apply completes_three <;> omega
  · cases h
    refine ⟨Nat.two_pos, ?_⟩
    dsimp only
    apply completes_three <;> omega
  · cases h
    refine ⟨Nat.two_pos, ?_⟩
    dsimp only
    apply completes_three <;> omega
  · cases h
    refine ⟨Nat.succ_pos 2, ?_⟩
    dsimp only
    apply completes_four <;> omega
  · cases h
    refine ⟨Nat.succ_pos 2, ?_⟩
    dsimp only
    apply completes_four <;> omega
  · cases h
    refine ⟨Nat.succ_pos 2, ?_⟩
    dsimp only
    apply completes_four <;> omega

end Opened

/-! ## Whole texts -/

theorem encodeUtf8_cons (c : Char) (cs : List Char) :
    encodeUtf8 (c :: cs) = String.utf8EncodeChar c ++ encodeUtf8 cs := List.flatMap_cons

theorem exists_of_map_cons {r : Except Utf8Fault (List Char)} {c : Char} {cs : List Char}
    (h : r.map (c :: ·) = .ok cs) : ∃ rest, r = .ok rest ∧ cs = c :: rest := by
  cases r with
  | error f => cases h
  | ok rest => exact ⟨rest, rfl, (Except.ok.inj h).symm⟩

/-- What was seen of a character: nothing between characters, or bytes that those which are owed
complete. -/
def Pending (seen : Bytes) : Option OpenChar → Prop
  | none => seen = []
  | some c => 0 < c.owed ∧ Completes seen c.owed c.low c.high c.code

/-- What is decoded from bytes encodes to them, behind what was seen before. -/
theorem encodeUtf8_of_decodeFrom {bytes seen : Bytes} {offset : Nat} {state : Option OpenChar}
    {cs : List Char} (h : decodeFrom offset state bytes = .ok cs) (hpending : Pending seen state) :
    encodeUtf8 cs = seen ++ bytes := by
  induction bytes generalizing offset state seen cs with
  | nil =>
    cases state with
    | none =>
      rw [decodeFrom] at h
      cases h
      rw [hpending]
      rfl
    | some c => simp [decodeFrom] at h
  | cons b bytes ih =>
    cases state with
    | none =>
      obtain rfl : seen = [] := hpending
      rw [decodeFrom] at h
      split at h
      · obtain ⟨rest, hrest, rfl⟩ := exists_of_map_cons h
        rw [encodeUtf8_cons, ih hrest rfl, utf8EncodeChar_one (by omega) rfl]
        rfl
      · split at h
        · next c hopen => exact ih h (completes_openChar? hopen)
        · cases h
    | some c =>
      obtain ⟨start, byte, owed, low, high, code⟩ := c
      obtain ⟨howed, hcompletes⟩ := hpending
      obtain ⟨n, rfl⟩ : ∃ n, owed = n + 1 := Nat.exists_eq_add_one.mpr howed
      simp only [decodeFrom, Bool.and_eq_true, decide_eq_true_eq] at h
      split_ifs at h with hbounds hlast
      · obtain rfl : n = 0 := by omega
        obtain ⟨rest, hrest, rfl⟩ := exists_of_map_cons h
        rw [encodeUtf8_cons, ih hrest rfl, hcompletes b hbounds.1 hbounds.2]
        simp
      · have hn : 0 < n := by omega
        have hnext := ih h ⟨hn, hcompletes b hbounds.1 hbounds.2⟩
        simpa using hnext

/-- Bytes that are UTF-8 are the encoding of their text. -/
theorem encodeUtf8_of_decodeUtf8 {bytes : Bytes} {cs : List Char}
    (h : decodeUtf8 bytes = .ok cs) : encodeUtf8 cs = bytes :=
  encodeUtf8_of_decodeFrom h rfl

/-! ## Texts that were encoded -/

section Decoding

variable {offset start owed low high code n : Nat} {byte b : UInt8} {c : OpenChar} {rest : Bytes}

/-- A byte within the bounds that is not the last one owed. -/
theorem decodeFrom_owed (hbounds : low ≤ b.toNat ∧ b.toNat ≤ high) :
    decodeFrom offset (some ⟨start, byte, owed + 2, low, high, code⟩) (b :: rest) =
      decodeFrom (offset + 1) (some ⟨start, byte, owed + 1, 0x80, 0xbf, code * 64 + b.toNat % 64⟩)
        rest := by
  simp [decodeFrom, hbounds]

/-- The last byte that is owed completes the character. -/
theorem decodeFrom_last (hbounds : low ≤ b.toNat ∧ b.toNat ≤ high) :
    decodeFrom offset (some ⟨start, byte, 1, low, high, code⟩) (b :: rest) =
      (decodeFrom (offset + 1) none rest).map (Char.ofNat (code * 64 + b.toNat % 64) :: ·) := by
  simp [decodeFrom, hbounds]

theorem decodeFrom_open (hb : 0x80 ≤ b.toNat) (h : openChar? offset b = some c) :
    decodeFrom offset none (b :: rest) = decodeFrom (offset + 1) (some c) rest := by
  have hmore : ¬ b.toNat < 0x80 := by omega
  simp [decodeFrom, hmore, h]

theorem openChar?_two (hb : 0xc2 ≤ b.toNat ∧ b.toNat ≤ 0xdf) :
    openChar? offset b = some ⟨offset, b, 1, 0x80, 0xbf, b.toNat - 0xc0⟩ := by
  simp [openChar?, hb]

/-- How the second of three bytes is bounded. -/
theorem exists_openChar?_three (offset : Nat) (hb : 0xe0 ≤ b.toNat ∧ b.toNat ≤ 0xef) :
    ∃ low high, openChar? offset b = some ⟨offset, b, 2, low, high, b.toNat - 0xe0⟩ ∧
      low = (if b.toNat = 0xe0 then 0xa0 else 0x80) ∧
      high = (if b.toNat = 0xed then 0x9f else 0xbf) := by
  have htwo : ¬ (0xc2 ≤ b.toNat ∧ b.toNat ≤ 0xdf) := by omega
  refine ⟨_, _, ?_, rfl, rfl⟩
  by_cases hfirst : b.toNat = 0xe0
  · simp [openChar?, hfirst]
  · by_cases hsurrogate : b.toNat = 0xed
    · simp [openChar?, hsurrogate]
    · have hthree : 0xe1 ≤ b.toNat ∧ b.toNat ≤ 0xef := by omega
      simp [openChar?, htwo, hfirst, hsurrogate, hthree]

/-- How the second of four bytes is bounded. -/
theorem exists_openChar?_four (offset : Nat) (hb : 0xf0 ≤ b.toNat ∧ b.toNat ≤ 0xf4) :
    ∃ low high, openChar? offset b = some ⟨offset, b, 3, low, high, b.toNat - 0xf0⟩ ∧
      low = (if b.toNat = 0xf0 then 0x90 else 0x80) ∧
      high = (if b.toNat = 0xf4 then 0x8f else 0xbf) := by
  have htwo : ¬ (0xc2 ≤ b.toNat ∧ b.toNat ≤ 0xdf) := by omega
  have hthree : ¬ (0xe1 ≤ b.toNat ∧ b.toNat ≤ 0xef) := by omega
  refine ⟨_, _, ?_, rfl, rfl⟩
  by_cases hfirst : b.toNat = 0xf0
  · simp [openChar?, hfirst]
  · by_cases hlast : b.toNat = 0xf4
    · simp [openChar?, hlast]
    · have hfour : 0xf1 ≤ b.toNat ∧ b.toNat ≤ 0xf3 := by omega
      have he0 : b.toNat ≠ 0xe0 := by omega
      have hed : b.toNat ≠ 0xed := by omega
      simp [openChar?, htwo, he0, hed, hthree, hfirst, hlast, hfour]

variable {b₁ b₂ b₃ b₄ : UInt8}

theorem decodeFrom_two (hn : 0x7f < n ∧ n ≤ 0x7ff) (h₁ : b₁.toNat = 0xc0 + n / 64)
    (h₂ : b₂.toNat = 0x80 + n % 64) :
    decodeFrom offset none (b₁ :: b₂ :: rest) =
      (decodeFrom (offset + 2) none rest).map (Char.ofNat n :: ·) := by
  have hcode : (b₁.toNat - 0xc0) * 64 + b₂.toNat % 64 = n := by omega
  rw [decodeFrom_open (by omega) (openChar?_two ⟨by omega, by omega⟩),
    decodeFrom_last ⟨by omega, by omega⟩, hcode]

theorem decodeFrom_three (hn : 0x7ff < n ∧ n ≤ 0xffff) (hvalid : n < 0xd800 ∨ 0xdfff < n)
    (h₁ : b₁.toNat = 0xe0 + n / 4096) (h₂ : b₂.toNat = 0x80 + n / 64 % 64)
    (h₃ : b₃.toNat = 0x80 + n % 64) :
    decodeFrom offset none (b₁ :: b₂ :: b₃ :: rest) =
      (decodeFrom (offset + 3) none rest).map (Char.ofNat n :: ·) := by
  obtain ⟨low, high, hopen, hlow, hhigh⟩ :=
    exists_openChar?_three offset (b := b₁) ⟨by omega, by omega⟩
  have hbounds : low ≤ b₂.toNat ∧ b₂.toNat ≤ high := by
    split_ifs at hlow hhigh <;> omega
  have hcode : ((b₁.toNat - 0xe0) * 64 + b₂.toNat % 64) * 64 + b₃.toNat % 64 = n := by omega
  rw [decodeFrom_open (by omega) hopen, decodeFrom_owed hbounds,
    decodeFrom_last ⟨by omega, by omega⟩, hcode]

theorem decodeFrom_four (hn : 0xffff < n ∧ n < 0x110000) (h₁ : b₁.toNat = 0xf0 + n / 262144)
    (h₂ : b₂.toNat = 0x80 + n / 4096 % 64) (h₃ : b₃.toNat = 0x80 + n / 64 % 64)
    (h₄ : b₄.toNat = 0x80 + n % 64) :
    decodeFrom offset none (b₁ :: b₂ :: b₃ :: b₄ :: rest) =
      (decodeFrom (offset + 4) none rest).map (Char.ofNat n :: ·) := by
  obtain ⟨low, high, hopen, hlow, hhigh⟩ :=
    exists_openChar?_four offset (b := b₁) ⟨by omega, by omega⟩
  have hbounds : low ≤ b₂.toNat ∧ b₂.toNat ≤ high := by
    split_ifs at hlow hhigh <;> omega
  have hcode : (((b₁.toNat - 0xf0) * 64 + b₂.toNat % 64) * 64 + b₃.toNat % 64) * 64 +
      b₄.toNat % 64 = n := by omega
  rw [decodeFrom_open (by omega) hopen, decodeFrom_owed hbounds,
    decodeFrom_owed ⟨by omega, by omega⟩,
    decodeFrom_last ⟨by omega, by omega⟩, hcode]

/-- A character is decoded from the bytes that it is encoded by, and reading goes on behind them. -/
theorem decodeFrom_utf8EncodeChar_append (c : Char) (offset : Nat) (rest : Bytes) :
    decodeFrom offset none (String.utf8EncodeChar c ++ rest) =
      (decodeFrom (offset + (String.utf8EncodeChar c).length) none rest).map (c :: ·) := by
  obtain ⟨n, hc, hn⟩ : ∃ n, c = Char.ofNat n ∧ (n < 0xd800 ∨ 0xdfff < n ∧ n < 0x110000) :=
    ⟨c.toNat, (Char.ofNat_toNat c).symm, c.valid⟩
  have hbyte {k : Nat} (hk : k < 256) : (UInt8.ofNat k).toNat = k := by
    rw [UInt8.toNat_ofNat', Nat.mod_eq_of_lt hk]
  subst hc
  rcases Nat.lt_or_ge 0x7f n with hone | hone
  · rcases Nat.lt_or_ge 0x7ff n with htwo | htwo
    · rcases Nat.lt_or_ge 0xffff n with hthree | hthree
      · have h₁ := hbyte (k := 0xf0 + n / 262144) (by omega)
        have h₂ := hbyte (k := 0x80 + n / 4096 % 64) (by omega)
        have h₃ := hbyte (k := 0x80 + n / 64 % 64) (by omega)
        have h₄ := hbyte (k := 0x80 + n % 64) (by omega)
        rw [utf8EncodeChar_four hthree (by omega) h₁ h₂ h₃ h₄]
        exact decodeFrom_four ⟨hthree, by omega⟩ h₁ h₂ h₃ h₄
      · have h₁ := hbyte (k := 0xe0 + n / 4096) (by omega)
        have h₂ := hbyte (k := 0x80 + n / 64 % 64) (by omega)
        have h₃ := hbyte (k := 0x80 + n % 64) (by omega)
        rw [utf8EncodeChar_three htwo hthree hn h₁ h₂ h₃]
        exact decodeFrom_three ⟨htwo, hthree⟩ (by omega) h₁ h₂ h₃
    · have h₁ := hbyte (k := 0xc0 + n / 64) (by omega)
      have h₂ := hbyte (k := 0x80 + n % 64) (by omega)
      rw [utf8EncodeChar_two hone htwo h₁ h₂]
      exact decodeFrom_two ⟨hone, htwo⟩ h₁ h₂
  · have h₁ := hbyte (k := n) (by omega)
    have hascii : (UInt8.ofNat n).toNat < 0x80 := by omega
    rw [utf8EncodeChar_one hone h₁, List.singleton_append, decodeFrom, if_pos hascii, h₁]
    rfl

/-- So is a text, with any bytes behind it. -/
theorem decodeFrom_encodeUtf8_append (cs : List Char) (offset : Nat) (rest : Bytes) :
    decodeFrom offset none (encodeUtf8 cs ++ rest) =
      (decodeFrom (offset + (encodeUtf8 cs).length) none rest).map (cs ++ ·) := by
  induction cs generalizing offset with
  | nil =>
    cases hrest : decodeFrom offset none rest <;> simp [encodeUtf8, hrest, Except.map]
  | cons c cs ih =>
    rw [encodeUtf8_cons, List.append_assoc, decodeFrom_utf8EncodeChar_append, ih,
      List.length_append, Nat.add_assoc]
    cases decodeFrom (offset + ((String.utf8EncodeChar c).length + (encodeUtf8 cs).length)) none
      rest <;> rfl

/-- Every text is decoded from the bytes that it is encoded by. -/
theorem decodeUtf8_encodeUtf8 (cs : List Char) : decodeUtf8 (encodeUtf8 cs) = .ok cs := by
  have h := decodeFrom_encodeUtf8_append cs 0 []
  rw [List.append_nil, decodeFrom] at h
  rw [decodeUtf8, h, Except.map, List.append_nil]

end Decoding

/-! ## Line ends -/

/-- A carriage return is encoded by itself, and its byte encodes nothing else. -/
theorem carriageReturn_mem_utf8EncodeChar {c : Char} :
    (13 : UInt8) ∈ String.utf8EncodeChar c ↔ c = '\r' := by
  have hcode : c = '\r' ↔ c.val.toNat = 13 := by
    rw [← Char.val_inj, ← UInt32.toNat_inj]
    rfl
  have hbyte (n : Nat) : (13 : UInt8) = UInt8.ofNat n ↔ n % 256 = 13 := by
    rw [← UInt8.toNat_inj, UInt8.toNat_ofNat', eq_comm]
    rfl
  have hlast := c.val.toNat_lt
  simp only [String.utf8EncodeChar, hcode]
  split_ifs with hone htwo hthree
  · simp only [List.mem_singleton, hbyte]
    omega
  · simp only [List.mem_cons, List.not_mem_nil, or_false, hbyte]
    omega
  · simp only [List.mem_cons, List.not_mem_nil, or_false, hbyte]
    omega
  · simp only [List.mem_cons, List.not_mem_nil, or_false, hbyte]
    omega

theorem carriageReturn_mem_encodeUtf8 {cs : List Char} :
    (13 : UInt8) ∈ encodeUtf8 cs ↔ '\r' ∈ cs := by
  rw [encodeUtf8, List.mem_flatMap]
  constructor
  · rintro ⟨c, hc, hbyte⟩
    exact carriageReturn_mem_utf8EncodeChar.mp hbyte ▸ hc
  · intro h
    exact ⟨_, h, carriageReturn_mem_utf8EncodeChar.mpr rfl⟩

theorem unifyLineEnds_of_notMem {cs : List Char} (h : '\r' ∉ cs) : unifyLineEnds cs = cs := by
  fun_induction unifyLineEnds cs with
  | case1 => rfl
  | case2 => simp at h
  | case3 => simp at h
  | case4 c cs _ _ ih =>
    rw [List.mem_cons, not_or] at h
    rw [ih h.2]

theorem notMem_unifyLineEnds (cs : List Char) : '\r' ∉ unifyLineEnds cs := by
  fun_induction unifyLineEnds cs with
  | case1 => simp
  | case2 cs ih => simpa using ih
  | case3 cs _ ih => simpa using ih
  | case4 c cs _ hc ih =>
    rw [List.mem_cons, not_or]
    exact ⟨fun heq => hc heq.symm, ih⟩

/-- The bytes stay the same where line ends are unified if no carriage return is among them, and
only then. -/
theorem encodeUtf8_unifyLineEnds {cs : List Char} :
    encodeUtf8 (unifyLineEnds cs) = encodeUtf8 cs ↔ (13 : UInt8) ∉ encodeUtf8 cs := by
  constructor
  · intro h
    rw [← h, carriageReturn_mem_encodeUtf8]
    exact notMem_unifyLineEnds cs
  · intro h
    rw [unifyLineEnds_of_notMem (mt carriageReturn_mem_encodeUtf8.mpr h)]

/-- The text with one line feed for every pair of a carriage return and a line feed. -/
def unifyPairs : List Char → List Char
  | [] => []
  | '\r' :: '\n' :: cs => '\n' :: unifyPairs cs
  | c :: cs => c :: unifyPairs cs

/-- Line ends are unified in two passes: first the pairs, then the carriage returns that are left. -/
theorem unifyLineEnds_eq_map (cs : List Char) :
    unifyLineEnds cs = (unifyPairs cs).map fun c => if c = '\r' then '\n' else c := by
  fun_induction unifyLineEnds cs with
  | case1 => rfl
  | case2 cs ih => rw [unifyPairs, List.map_cons, ih]; rfl
  | case3 cs hpair ih =>
    have hcons : unifyPairs ('\r' :: cs) = '\r' :: unifyPairs cs := by
      cases cs with
      | nil => rfl
      | cons d cs =>
        have hd : d ≠ '\n' := fun heq => hpair cs (by rw [heq])
        simp [unifyPairs, hd]
    rw [hcons, List.map_cons, ih]
    rfl
  | case4 c cs hpair hreturn ih =>
    have hc : c ≠ '\r' := hreturn
    have hcons : unifyPairs (c :: cs) = c :: unifyPairs cs := by simp [unifyPairs]
    rw [hcons, List.map_cons, ih, if_neg hc]

end CustomElement.Text
