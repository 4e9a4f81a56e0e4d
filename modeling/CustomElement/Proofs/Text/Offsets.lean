-- SUMMARY: Byte offsets count characters: the table, its shortcut, and the bounds that spans rest on.
import Mathlib.Data.List.Basic
import CustomElement.Text.Offsets

/-! ## Byte offsets

A byte offset inside a text stands for the number of characters that end at or before it. The table
of a text and the shortcut for texts of one-byte characters both give that number, so both are
monotone and stay inside the text. -/

namespace CustomElement.Text

/-! ## Counting characters by bytes -/

@[simp] theorem byteLength_nil : byteLength [] = 0 := rfl

@[simp] theorem byteLength_cons (c : Char) (cs : List Char) :
    byteLength (c :: cs) = c.utf8Size + byteLength cs := rfl

@[simp] theorem byteLength_append (cs ds : List Char) :
    byteLength (cs ++ ds) = byteLength cs + byteLength ds := by
  induction cs with
  | nil => simp
  | cons c cs ih => simp only [List.cons_append, byteLength_cons, ih, Nat.add_assoc]

theorem byteLength_take_le (k : Nat) (cs : List Char) : byteLength (cs.take k) ≤ byteLength cs := by
  have h := byteLength_append (cs.take k) (cs.drop k)
  rw [List.take_append_drop] at h
  omega

/-- A text has at least as many bytes as characters. -/
theorem length_le_byteLength (cs : List Char) : cs.length ≤ byteLength cs := by
  induction cs with
  | nil => simp
  | cons c cs ih =>
    have hc := c.utf8Size_pos
    simp only [List.length_cons, byteLength_cons]
    omega

theorem takeBytes_prefix_self (n : Nat) (cs : List Char) : takeBytes n cs <+: cs := by
  induction cs generalizing n with
  | nil => exact List.prefix_rfl
  | cons c cs ih =>
    simp only [takeBytes]
    split
    · exact (List.prefix_cons_inj c).mpr (ih _)
    · exact List.nil_prefix

theorem takeBytes_length_le (n : Nat) (cs : List Char) : (takeBytes n cs).length ≤ cs.length :=
  (takeBytes_prefix_self n cs).length_le

/-- More bytes hold at least as many characters. -/
theorem takeBytes_length_mono {a b : Nat} (h : a ≤ b) (cs : List Char) :
    (takeBytes a cs).length ≤ (takeBytes b cs).length := by
  induction cs generalizing a b with
  | nil => simp [takeBytes]
  | cons c cs ih =>
    by_cases hc : c.utf8Size ≤ a
    · have hb : c.utf8Size ≤ b := by omega
      have := ih (a := a - c.utf8Size) (b := b - c.utf8Size) (by omega)
      simp only [takeBytes, hc, hb, if_true, List.length_cons]
      omega
    · simp [takeBytes, hc]

/-- The bytes of a text hold that text, whatever stands behind it. -/
theorem takeBytes_append (cs ds : List Char) : takeBytes (byteLength cs) (cs ++ ds) = cs := by
  induction cs with
  | nil =>
    cases ds with
    | nil => rfl
    | cons d ds =>
      have hd : ¬ d.utf8Size ≤ 0 := Nat.not_le.mpr d.utf8Size_pos
      rw [List.nil_append, byteLength_nil, takeBytes, if_neg hd]
  | cons c cs ih => simp [takeBytes, ih]

/-- The bytes before a place hold the characters before it. -/
theorem takeBytes_byteLength_take (k : Nat) (cs : List Char) :
    takeBytes (byteLength (cs.take k)) cs = cs.take k := by
  have h := takeBytes_append (cs.take k) (cs.drop k)
  rwa [List.take_append_drop] at h

/-- The characters that some bytes hold take no more than those bytes. -/
theorem byteLength_takeBytes_le (n : Nat) (cs : List Char) : byteLength (takeBytes n cs) ≤ n := by
  induction cs generalizing n with
  | nil => simp [takeBytes]
  | cons c cs ih =>
    rw [takeBytes]
    split
    · have := ih (n - c.utf8Size)
      rw [byteLength_cons]
      omega
    · simp

/-- Fewer bytes than the first characters take hold fewer characters. -/
theorem takeBytes_length_lt {b k : Nat} {cs : List Char} (h : b < byteLength (cs.take k)) :
    (takeBytes b cs).length < k := by
  by_contra hge
  have htake : takeBytes b cs = cs.take (takeBytes b cs).length :=
    List.prefix_iff_eq_take.mp (takeBytes_prefix_self b cs)
  have hfirst : (takeBytes b cs).take k = cs.take k := by
    rw [htake, List.take_take, Nat.min_eq_left (Nat.le_of_not_lt hge)]
  have hmore := byteLength_take_le k (takeBytes b cs)
  have hbytes := byteLength_takeBytes_le b cs
  rw [hfirst] at hmore
  omega

/-- Where no character takes more than a byte, bytes and characters are counted alike. -/
theorem takeBytes_length_of_byteLength_eq {cs : List Char} (h : byteLength cs = cs.length)
    {n : Nat} (hn : n ≤ cs.length) : (takeBytes n cs).length = n := by
  induction cs generalizing n with
  | nil =>
    have : n = 0 := by simpa using hn
    simp [takeBytes, this]
  | cons c cs ih =>
    have hpos := c.utf8Size_pos
    have hle := length_le_byteLength cs
    simp only [byteLength_cons, List.length_cons] at h hn
    have hsize : c.utf8Size = 1 := by omega
    cases n with
    | zero => simp [takeBytes, hsize]
    | succ n =>
      have := ih (by omega) (n := n) (by omega)
      simp [takeBytes, hsize, this]

/-! ## The table -/

theorem length_byteTable (k : Nat) (cs : List Char) :
    (byteTable k cs).length = byteLength cs + 1 := by
  induction cs generalizing k with
  | nil => rfl
  | cons c cs ih =>
    simp only [byteTable, List.length_append, List.length_replicate, ih, byteLength_cons]
    omega

/-- The entry for a byte is the number of the character that the byte belongs to. -/
theorem getD_byteTable {k b : Nat} {cs : List Char} (h : b ≤ byteLength cs) :
    (byteTable k cs).getD b 0 = k + (takeBytes b cs).length := by
  induction cs generalizing k b with
  | nil =>
    have : b = 0 := by simpa using h
    simp [byteTable, takeBytes, this]
  | cons c cs ih =>
    simp only [byteLength_cons] at h
    by_cases hb : c.utf8Size ≤ b
    · -- the byte lies behind the first character
      have hskip : (byteTable k (c :: cs)).getD b 0
          = (byteTable (k + 1) cs).getD (b - c.utf8Size) 0 := by
        simp [byteTable, List.getD_eq_getElem?_getD, List.getElem?_append_right, hb]
      rw [hskip, ih (by omega)]
      simp only [takeBytes, hb, if_true, List.length_cons]
      omega
    · have hin : b < c.utf8Size := by omega
      simp [byteTable, takeBytes, hb, List.getD_eq_getElem?_getD, List.getElem?_append_left, hin]

/-! ## Character offsets -/

namespace Offsets

variable {cs : List Char}

/-- A byte offset stands for the number of characters that end at or before it, whether a table is
kept or not. -/
theorem char_ofChars {b : Nat} (h : b ≤ byteLength cs) :
    (ofChars cs).char b = (takeBytes b cs).length := by
  unfold ofChars
  split
  · next heq =>
    have hb : b ≤ cs.length := by omega
    exact (takeBytes_length_of_byteLength_eq heq hb).symm
  · have := getD_byteTable (k := 0) h
    simpa [char, Array.getD_eq_getD_getElem?, List.getD_eq_getElem?_getD] using this

/-- The bytes before a stretch count the characters before it. -/
theorem char_byteLength (before after : List Char) :
    (ofChars (before ++ after)).char (byteLength before) = before.length := by
  rw [char_ofChars (by simp), takeBytes_append]

theorem char_byteLength_take {k : Nat} (h : k ≤ cs.length) :
    (ofChars cs).char (byteLength (cs.take k)) = k := by
  have hchar := char_byteLength (cs.take k) (cs.drop k)
  rwa [List.take_append_drop, List.length_take, Nat.min_eq_left h] at hchar

theorem char_mono {a b : Nat} (hab : a ≤ b) (hb : b ≤ byteLength cs) :
    (ofChars cs).char a ≤ (ofChars cs).char b := by
  rw [char_ofChars (by omega), char_ofChars hb]
  exact takeBytes_length_mono hab cs

theorem char_le_length {b : Nat} (h : b ≤ byteLength cs) : (ofChars cs).char b ≤ cs.length := by
  rw [char_ofChars h]
  exact takeBytes_length_le b cs

end Offsets

/-! ## The table of lines -/

/-- A byte with a line begins a character, or is the end, and the line counts the line feeds before
it. -/
theorem exists_take_of_getElem?_lineTable {l b line : Nat} {cs : List Char}
    (h : (lineTable l cs)[b]? = some (some line)) :
    ∃ k ≤ cs.length, b = byteLength (cs.take k) ∧ line = l + (cs.take k).count '\n' := by
  induction cs generalizing l b with
  | nil =>
    cases b with
    | zero => exact ⟨0, Nat.le_refl 0, rfl, by simpa [lineTable, eq_comm] using h⟩
    | succ b => simp [lineTable] at h
  | cons c cs ih =>
    have hsize := c.utf8Size_pos
    cases b with
    | zero => exact ⟨0, Nat.zero_le _, rfl, by simpa [lineTable, eq_comm] using h⟩
    | succ b =>
      rw [lineTable, List.cons_append, List.getElem?_cons_succ, List.getElem?_append] at h
      split at h
      · -- a byte inside the first character has no line
        next hin =>
        rw [List.length_replicate] at hin
        simp [hin] at h
      · next hout =>
        rw [List.length_replicate] at hout h
        obtain ⟨k, hk, hbyte, hline⟩ := ih h
        refine ⟨k + 1, Nat.succ_le_succ hk, ?_, ?_⟩
        · rw [List.take_succ_cons, byteLength_cons]
          omega
        · rw [List.take_succ_cons, List.count_cons, hline]
          by_cases hc : c = '\n'
          · simp [hc, Nat.add_comm, Nat.add_left_comm]
          · simp [hc]

/-- So it is where the table is read with a default. -/
theorem exists_take_of_getD_lineTable {cs : List Char} {b line : Nat}
    (h : (lineTable 0 cs).toArray.getD b none = some line) :
    ∃ k ≤ cs.length, b = byteLength (cs.take k) ∧ line = (cs.take k).count '\n' := by
  have hget : (lineTable 0 cs)[b]? = some (some line) := by
    simpa [Array.getD_eq_getD_getElem?, Option.getD_eq_iff] using h
  simpa using exists_take_of_getElem?_lineTable hget

/-- A byte with a line lies inside the text or at its end. -/
theorem le_byteLength_of_getD_lineTable {cs : List Char} {b line : Nat}
    (h : (lineTable 0 cs).toArray.getD b none = some line) : b ≤ byteLength cs := by
  obtain ⟨k, _, rfl, _⟩ := exists_take_of_getD_lineTable h
  exact byteLength_take_le k cs

end CustomElement.Text
