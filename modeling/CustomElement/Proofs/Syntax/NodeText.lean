-- SUMMARY: Byte offsets are mapped to characters with and without a table, and a node's text is what its bytes encode.
import Mathlib.Data.List.Basic
import CustomElement.Syntax.Reader
import CustomElement.Proofs.Text.Offsets
import CustomElement.Proofs.Text.Slice
import CustomElement.Proofs.Text.Utf8

/-! ## The text of a node

A tree counts bytes of the encoding, a module counts characters. The bytes of the first characters
are mapped to their number, by the table of a text as by the shortcut that needs none. So where a
node begins and ends between characters, its text is decoded from its bytes, and its span is where
the text stands in the source. -/

namespace CustomElement.Text

/-! ## Stretches of the encoding -/

theorem length_encodeUtf8 (cs : List Char) : (encodeUtf8 cs).length = byteLength cs := by
  induction cs with
  | nil => rfl
  | cons c cs ih => simp [encodeUtf8_cons, ih]

theorem encodeUtf8_append (cs ds : List Char) :
    encodeUtf8 (cs ++ ds) = encodeUtf8 cs ++ encodeUtf8 ds := List.flatMap_append

/-- The bytes of the first characters come first, then those of the others. -/
theorem encodeUtf8_split (k : Nat) (cs : List Char) :
    encodeUtf8 cs = encodeUtf8 (cs.take k) ++ encodeUtf8 (cs.drop k) := by
  rw [← encodeUtf8_append, List.take_append_drop]

theorem take_encodeUtf8 (k : Nat) (cs : List Char) :
    (encodeUtf8 cs).take (encodeUtf8 (cs.take k)).length = encodeUtf8 (cs.take k) := by
  rw [encodeUtf8_split k cs, List.take_left]

theorem drop_encodeUtf8 (k : Nat) (cs : List Char) :
    (encodeUtf8 cs).drop (encodeUtf8 (cs.take k)).length = encodeUtf8 (cs.drop k) := by
  rw [encodeUtf8_split k cs, List.drop_left]

/-- The bytes between two places encode the characters between them. -/
theorem drop_take_encodeUtf8 (j k : Nat) (cs : List Char) :
    ((encodeUtf8 cs).take (encodeUtf8 (cs.take k)).length).drop (encodeUtf8 (cs.take j)).length =
      encodeUtf8 ((cs.take k).drop j) := by
  rw [take_encodeUtf8]
  rcases Nat.le_total j k with hjk | hkj
  · have htake : (cs.take k).take j = cs.take j := by rw [List.take_take, Nat.min_eq_left hjk]
    rw [← htake, drop_encodeUtf8]
  · -- the places are the wrong way round, and nothing stands between them
    have htake : (cs.take j).take k = cs.take k := by rw [List.take_take, Nat.min_eq_left hkj]
    have hbytes := byteLength_take_le k (cs.take j)
    rw [htake, ← length_encodeUtf8, ← length_encodeUtf8] at hbytes
    have hchars : (cs.take k).length ≤ j := Nat.le_trans (List.length_take_le k cs) hkj
    rw [List.drop_eq_nil_of_le hbytes, List.drop_eq_nil_of_le hchars]
    rfl

/-! ## The map -/

namespace Offsets

/-- Offsets count the characters of a text by the bytes of its encoding. -/
structure CountsChars (cs : List Char) (o : Offsets) : Prop where
  /-- The bytes of the first characters count those characters. -/
  boundary : ∀ k ≤ cs.length, o.char (encodeUtf8 (cs.take k)).length = k
  /-- The bytes of one character count those before it. -/
  within : ∀ k b, (encodeUtf8 (cs.take k)).length ≤ b →
    b < (encodeUtf8 (cs.take (k + 1))).length → o.char b = k
  monotone : ∀ a b, a ≤ b → b ≤ (encodeUtf8 cs).length → o.char a ≤ o.char b
  /-- Where a table is kept, it has an entry for each byte and for the end. -/
  kept : ∀ table, o.table = some table → (encodeUtf8 cs).length < table.size
  /-- Whether it is kept or not, the table gives the characters. -/
  tabulated : ∀ b ≤ (encodeUtf8 cs).length, (byteTable 0 cs)[b]? = some (o.char b)
  /-- No table is kept where no character takes more than a byte. -/
  omitted : o.table = none ↔ (encodeUtf8 cs).length = cs.length
  /-- Then each byte counts for a character, as it would by the table. -/
  shortcut : (encodeUtf8 cs).length = cs.length → ∀ b ≤ (encodeUtf8 cs).length,
    o.char b = b ∧ (byteTable 0 cs)[b]? = some b

theorem getElem?_byteTable {cs : List Char} {b : Nat} (h : b ≤ byteLength cs) :
    (byteTable 0 cs)[b]? = some ((ofChars cs).char b) := by
  have hlength : b < (byteTable 0 cs).length := by
    rw [length_byteTable]
    omega
  have hentry := getD_byteTable (k := 0) h
  rw [List.getD_eq_getElem?_getD, List.getElem?_eq_getElem hlength, Option.getD_some] at hentry
  rw [List.getElem?_eq_getElem hlength, hentry, char_ofChars h, Nat.zero_add]

theorem table_ofChars (cs : List Char) : (ofChars cs).table =
    if byteLength cs = cs.length then none else some (byteTable 0 cs).toArray := by
  unfold ofChars
  split <;> rfl

/-- The offsets of a text count its characters. -/
theorem countsChars_ofChars (cs : List Char) : (ofChars cs).CountsChars cs where
  boundary k hk := by
    rw [length_encodeUtf8]
    exact char_byteLength_take hk
  within k b hfirst hlast := by
    rw [length_encodeUtf8] at hfirst hlast
    have hk : k ≤ cs.length := by
      by_contra hbeyond
      have hsame : cs.take (k + 1) = cs.take k := by
        rw [List.take_of_length_le (by omega), List.take_of_length_le (by omega)]
      rw [hsame] at hlast
      omega
    have hb : b ≤ byteLength cs := Nat.le_of_lt (Nat.lt_of_lt_of_le hlast (byteLength_take_le _ cs))
    have hlow := takeBytes_length_mono hfirst cs
    have hhigh := takeBytes_length_lt hlast
    rw [takeBytes_byteLength_take, List.length_take, Nat.min_eq_left hk] at hlow
    rw [char_ofChars hb]
    omega
  monotone a b hab hb := by
    rw [length_encodeUtf8] at hb
    exact char_mono hab hb
  kept table htable := by
    rw [table_ofChars] at htable
    split at htable
    · cases htable
    · obtain rfl := Option.some.inj htable
      rw [length_encodeUtf8, List.size_toArray, length_byteTable]
      omega
  tabulated b hb := by
    rw [length_encodeUtf8] at hb
    exact getElem?_byteTable hb
  omitted := by
    rw [table_ofChars, length_encodeUtf8]
    split <;> simp [*]
  shortcut hsame b hb := by
    rw [length_encodeUtf8] at hsame hb
    have hchar : (ofChars cs).char b = b := by simp [char, table_ofChars, hsame]
    have hentry := getElem?_byteTable hb
    rw [hchar] at hentry
    exact ⟨hchar, hentry⟩

end Offsets

end CustomElement.Text

namespace CustomElement.Syntax

open Parsing Text

namespace SourceText

/-! ## Texts and spans of nodes -/

/-- Before the byte a character ends or the text begins: the bytes up to it are those of the first
characters. -/
def IsBoundary (cs : List Char) (byte : Nat) : Prop :=
  ∃ k ≤ cs.length, byte = (encodeUtf8 (cs.take k)).length

variable {source : String} {n : Node}

/-- The text of a node is the slice over its span. -/
theorem text_eq_slice : (ofChars source.toList).text n =
    slice source ((ofChars source.toList).span n).start ((ofChars source.toList).span n).stop :=
  (slice_offsets source _ _).symm

/-- The text of a node that begins and ends between characters is decoded from its bytes. -/
theorem decodeUtf8_bytes (hstart : IsBoundary source.toList n.start.byte)
    (hstop : IsBoundary source.toList n.stop.byte) :
    decodeUtf8 (((encodeUtf8 source.toList).take n.stop.byte).drop n.start.byte) =
      .ok ((ofChars source.toList).text n).toList := by
  obtain ⟨j, hj, hstart⟩ := hstart
  obtain ⟨k, hk, hstop⟩ := hstop
  have hcounts := Offsets.countsChars_ofChars source.toList
  have hfirst : (ofChars source.toList).start n = j := by
    rw [start, hstart]
    exact hcounts.boundary j hj
  have hlast : (ofChars source.toList).stop n = k := by
    rw [stop, hstop]
    exact hcounts.boundary k hk
  rw [hstart, hstop, drop_take_encodeUtf8, decodeUtf8_encodeUtf8, text, hfirst, hlast, between,
    String.toList_ofList]
  rfl

/-- The offsets of a source count its characters by bytes, with a table or without. So the text of a
node that begins and ends between characters is what its bytes encode, and what stands in the source
over its span. -/
theorem ofChars_counts_and_cuts (source : String) :
    (ofChars source.toList).offsets.CountsChars source.toList ∧
      ∀ n : Node, IsBoundary source.toList n.start.byte → IsBoundary source.toList n.stop.byte →
        decodeUtf8 (((encodeUtf8 source.toList).take n.stop.byte).drop n.start.byte) =
            .ok ((ofChars source.toList).text n).toList ∧
          (ofChars source.toList).text n = slice source ((ofChars source.toList).span n).start
            ((ofChars source.toList).span n).stop :=
  ⟨Offsets.countsChars_ofChars source.toList, fun _ hstart hstop =>
    ⟨decodeUtf8_bytes hstart hstop, text_eq_slice⟩⟩

/-! ### A string with characters of two and three bytes -/

/-- A source with characters of one to three bytes. -/
def cupSource : String := "é = '☕☕'"

/-- The string in the source. -/
def cupNode : Node := .mk (.phrase .stringLiteral) false false false ⟨5, 0⟩ ⟨13, 0⟩ []

theorem ofChars_counts_and_cuts_cup :
    (ofChars cupSource.toList).offsets.char (encodeUtf8 (cupSource.toList.take 6)).length = 6 ∧
      IsBoundary cupSource.toList cupNode.start.byte ∧
      IsBoundary cupSource.toList cupNode.stop.byte ∧
      decodeUtf8 (((encodeUtf8 cupSource.toList).take 13).drop 5) = .ok "'☕☕'".toList ∧
      slice cupSource 4 8 = "'☕☕'" := by
  obtain ⟨hcounts, hcuts⟩ := ofChars_counts_and_cuts cupSource
  have hstart : IsBoundary cupSource.toList cupNode.start.byte := ⟨4, by decide, by decide⟩
  have hstop : IsBoundary cupSource.toList cupNode.stop.byte := ⟨8, by decide, by decide⟩
  obtain ⟨hdecode, hslice⟩ := hcuts cupNode hstart hstop
  have htext : (ofChars cupSource.toList).text cupNode = "'☕☕'" := by decide
  rw [htext] at hdecode hslice
  exact ⟨hcounts.boundary 6 (by decide), hstart, hstop, hdecode, hslice.symm⟩

end SourceText

end CustomElement.Syntax
