-- SUMMARY: From byte offsets in the encoding of a text to character offsets in the text.

/-! ## Offsets

The tree of a source counts bytes of its encoding; spans and slices count characters. Where every
character takes one byte the two are the same and no table is kept. -/

namespace CustomElement.Text

/-- The number of bytes that characters take. -/
def byteLength : List Char → Nat
  | [] => 0
  | c :: cs => c.utf8Size + byteLength cs

/-- The characters whose bytes lie among the first ones. -/
def takeBytes (n : Nat) : List Char → List Char
  | [] => []
  | c :: cs => if c.utf8Size ≤ n then c :: takeBytes (n - c.utf8Size) cs else []

/-- The characters behind those. -/
def dropBytes (n : Nat) : List Char → List Char
  | [] => []
  | c :: cs => if c.utf8Size ≤ n then dropBytes (n - c.utf8Size) cs else c :: cs

/-- For each byte the number of the character that it belongs to, and at last the number of
characters. -/
def byteTable : Nat → List Char → List Nat
  | k, [] => [k]
  | k, c :: cs => List.replicate c.utf8Size k ++ byteTable (k + 1) cs

/-- The characters of byte offsets: `none` where every character takes one byte. -/
structure Offsets where
  table : Option (Array Nat)

namespace Offsets

/-- The offsets of a text. -/
def ofChars (cs : List Char) : Offsets :=
  if byteLength cs = cs.length then ⟨none⟩ else ⟨some (byteTable 0 cs).toArray⟩

/-- The character offset of a byte offset. -/
def char (o : Offsets) (byte : Nat) : Nat :=
  match o.table with
  | none => byte
  | some table => table.getD byte 0

end Offsets

/-- For each byte that begins a character the number of line feeds before it; at last their number
in the whole text. -/
def lineTable : Nat → List Char → List (Option Nat)
  | k, [] => [some k]
  | k, c :: cs =>
    some k :: List.replicate (c.utf8Size - 1) none ++ lineTable (if c = '\n' then k + 1 else k) cs

end CustomElement.Text
