-- SUMMARY: Where bytes stop being UTF-8: the reported fault lies behind the longest part that is valid.
import Mathlib.Data.List.Basic
import CustomElement.Proofs.Text.Utf8

/-! ## The first fault

Bytes are UTF-8 if they are the encoding of a text. Where they are not, what is read before the
fault is the encoding of a text, and no longer part from the start is one: behind that part reading
would have gone on. So the place of the fault is told without the reader. -/

namespace CustomElement.Text

variable {bytes seen rest : Bytes} {b : UInt8} {offset start n : Nat} {state : Option OpenChar}
  {c : OpenChar} {f : Utf8Fault} {cs : List Char}

/-! ## UTF-8 -/

/-- The bytes are the encoding of a text. -/
def IsUtf8 (bytes : Bytes) : Prop := ∃ cs, encodeUtf8 cs = bytes

theorem decodeUtf8_eq_ok_iff : decodeUtf8 bytes = .ok cs ↔ encodeUtf8 cs = bytes := by
  constructor
  · exact encodeUtf8_of_decodeUtf8
  · rintro rfl
    exact decodeUtf8_encodeUtf8 cs

/-- Bytes that are not UTF-8 are refused. -/
theorem exists_decodeUtf8_eq_error (h : ¬ IsUtf8 bytes) : ∃ f, decodeUtf8 bytes = .error f := by
  cases hdecode : decodeUtf8 bytes with
  | error f => exact ⟨f, rfl⟩
  | ok cs => exact absurd ⟨cs, decodeUtf8_eq_ok_iff.mp hdecode⟩ h

/-! ## Where reading breaks off -/

theorem map_eq_error_iff {r : Except Utf8Fault (List Char)} {g : List Char → List Char} :
    r.map g = .error f ↔ r = .error f := by
  cases r <;> simp [Except.map]

/-- The bytes behind which an offset lies are those of the character that is open there. -/
def OpenedBy (seen : Bytes) (offset : Nat) : Option OpenChar → Prop
  | none => True
  | some c => c.start + seen.length = offset ∧ seen.head? = some c.byte

theorem openedBy_openChar? (h : openChar? offset b = some c) :
    OpenedBy [b] (offset + 1) (some c) := by
  unfold openChar? at h
  dsimp only at h
  split_ifs at h <;> cases h <;> exact ⟨rfl, rfl⟩

/-- A fault lies behind the encoding of a text, at the byte that opens what is broken. -/
theorem exists_before_fault (h : decodeFrom offset state bytes = .error f)
    (hpending : Pending seen state) (hopened : OpenedBy seen offset state) :
    ∃ cs rest, seen ++ bytes = encodeUtf8 cs ++ f.byte :: rest ∧
      f.start + seen.length = offset + (encodeUtf8 cs).length := by
  induction bytes generalizing offset state seen with
  | nil =>
    cases state with
    | none => cases h
    | some c =>
      rw [decodeFrom] at h
      cases h
      obtain ⟨hstart, hbyte⟩ := hopened
      obtain ⟨rest, rfl⟩ := List.head?_eq_some_iff.mp hbyte
      exact ⟨[], rest, by simp [encodeUtf8], by simpa [encodeUtf8] using hstart⟩
  | cons b bytes ih =>
    cases state with
    | none =>
      obtain rfl : seen = [] := hpending
      rw [decodeFrom] at h
      split at h
      · next hascii =>
        obtain ⟨cs, rest, hbytes, hstart⟩ := ih (map_eq_error_iff.mp h) rfl trivial
        refine ⟨Char.ofNat b.toNat :: cs, rest, ?_, ?_⟩
        · rw [encodeUtf8_cons, utf8EncodeChar_one (by omega) rfl, List.append_assoc, ← hbytes]
          rfl
        · rw [encodeUtf8_cons, utf8EncodeChar_one (by omega) rfl]
          simp only [List.length_nil, List.singleton_append, List.length_cons] at hstart ⊢
          omega
      · split at h
        · next c hopen =>
          obtain ⟨cs, rest, hbytes, hstart⟩ :=
            ih h (completes_openChar? hopen) (openedBy_openChar? hopen)
          refine ⟨cs, rest, hbytes, ?_⟩
          simp only [List.length_nil, List.length_cons] at hstart ⊢
          omega
        · cases h
          exact ⟨[], bytes, rfl, rfl⟩
    | some c =>
      obtain ⟨start, byte, owed, low, high, code⟩ := c
      obtain ⟨howed, hcompletes⟩ := hpending
      obtain ⟨hstart, hbyte⟩ := hopened
      obtain ⟨n, rfl⟩ : ∃ n, owed = n + 1 := Nat.exists_eq_add_one.mpr howed
      dsimp only at hstart hbyte hcompletes
      simp only [decodeFrom, Bool.and_eq_true, decide_eq_true_eq] at h
      split_ifs at h with hbounds hlast
      · -- the character is complete, so the fault lies behind it
        obtain rfl : n = 0 := by omega
        obtain ⟨cs, rest, hbytes, hfault⟩ := ih (map_eq_error_iff.mp h) rfl trivial
        refine ⟨Char.ofNat (code * 64 + b.toNat % 64) :: cs, rest, ?_, ?_⟩
        · rw [encodeUtf8_cons, hcompletes b hbounds.1 hbounds.2, List.append_assoc,
            List.append_assoc, ← hbytes]
          rfl
        · rw [encodeUtf8_cons, hcompletes b hbounds.1 hbounds.2]
          simp only [List.length_nil, List.length_append, List.length_cons] at hfault ⊢
          omega
      · have hn : 0 < n := by omega
        obtain ⟨cs, rest, hbytes, hfault⟩ := ih h ⟨hn, hcompletes b hbounds.1 hbounds.2⟩
          ⟨by simp only [List.length_append, List.length_singleton]; omega,
            by rw [List.head?_append, hbyte]; rfl⟩
        refine ⟨cs, rest, by rw [← hbytes]; simp, ?_⟩
        simp only [List.length_append, List.length_singleton] at hfault ⊢
        omega
      · cases h
        obtain ⟨more, rfl⟩ := List.head?_eq_some_iff.mp hbyte
        exact ⟨[], more ++ b :: bytes, by simp [encodeUtf8], by simpa [encodeUtf8] using hstart⟩

/-! ## The longest valid part -/

/-- The bytes are valid up to an offset and not to a later one; a byte is the one there. -/
structure FirstFault (bytes : Bytes) (offset : Nat) (byte : UInt8) : Prop where
  valid : IsUtf8 (bytes.take offset)
  longest : ∀ n ≤ bytes.length, IsUtf8 (bytes.take n) → n ≤ offset
  byte : bytes[offset]? = some byte

/-- There is one first fault. -/
theorem FirstFault.eq {i j : Nat} {x y : UInt8} (h : FirstFault bytes i x)
    (h' : FirstFault bytes j y) : i = j ∧ x = y := by
  obtain ⟨hi, _⟩ := List.getElem?_eq_some_iff.mp h.byte
  obtain ⟨hj, _⟩ := List.getElem?_eq_some_iff.mp h'.byte
  obtain rfl : i = j := Nat.le_antisymm (h'.longest i (Nat.le_of_lt hi) h.valid)
    (h.longest j (Nat.le_of_lt hj) h'.valid)
  exact ⟨rfl, Option.some.inj (h.byte.symm.trans h'.byte)⟩

/-- The fault that is reported is the first one. -/
theorem firstFault_of_decodeUtf8 (h : decodeUtf8 bytes = .error f) :
    FirstFault bytes f.start f.byte := by
  have hnothing : Pending [] none := rfl
  obtain ⟨cs, rest, hbytes, hstart⟩ := exists_before_fault h hnothing trivial
  simp only [List.nil_append, List.length_nil, Nat.add_zero, Nat.zero_add] at hbytes hstart
  refine ⟨⟨cs, by rw [hbytes, hstart, List.take_left]⟩, ?_, by simp [hbytes, hstart]⟩
  rintro n hn ⟨ds, hds⟩
  have hlength : (encodeUtf8 ds).length = n := by rw [hds, List.length_take, Nat.min_eq_left hn]
  -- behind a valid part reading goes on, and the fault is met behind it
  have hsplit : bytes = encodeUtf8 ds ++ bytes.drop n := by rw [hds, List.take_append_drop]
  rw [decodeUtf8, hsplit, decodeFrom_encodeUtf8_append, map_eq_error_iff, Nat.zero_add,
    hlength] at h
  obtain ⟨_, _, _, hbehind⟩ := exists_before_fault h hnothing trivial
  simp only [List.length_nil, Nat.add_zero] at hbehind
  omega

end CustomElement.Text
