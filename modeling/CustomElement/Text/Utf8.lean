-- SUMMARY: Texts from bytes in UTF-8, with the place and reason of the first fault.
import CustomElement.Text.Hex

/-! ## UTF-8

Bytes are read one at a time. Between characters a byte is a character of its own or opens one of
two to four bytes; the first byte after the opening is bounded more tightly where a shorter form, a
surrogate or a number beyond the last character would arise. A fault is reported from the byte that
opens the broken character up to the byte that breaks it. -/

namespace CustomElement.Text

/-- A sequence of bytes, such as the content of a file. -/
abbrev Bytes := List UInt8

/-- Why bytes are not UTF-8. -/
inductive Utf8Reason where
  | invalidStart
  | invalidContinuation
  | unexpectedEnd
  deriving DecidableEq, Repr

/-- The reason in words. -/
def Utf8Reason.message : Utf8Reason → String
  | invalidStart => "invalid start byte"
  | invalidContinuation => "invalid continuation byte"
  | unexpectedEnd => "unexpected end of data"

/-- The first fault in bytes: the broken stretch, its first byte and the reason. -/
structure Utf8Fault where
  start : Nat
  stop : Nat
  byte : UInt8
  reason : Utf8Reason
  deriving DecidableEq, Repr

/-- A byte as two hexadecimal digits. -/
def hexByte (b : UInt8) : String := String.ofList (hexDigits b.toNat 2)

/-- The fault in words; a stretch of more than one byte is given by its ends. -/
def Utf8Fault.message (f : Utf8Fault) : String :=
  let place :=
    if f.stop = f.start + 1 then "byte 0x" ++ hexByte f.byte ++ " in position " ++ toString f.start
    else "bytes in position " ++ toString f.start ++ "-" ++ toString (f.stop - 1)
  "'utf-8' codec can't decode " ++ place ++ ": " ++ f.reason.message

/-- An opened character: where it began and with which byte, how many bytes are owed, the bounds of
the next of them, and the number read so far. -/
structure OpenChar where
  start : Nat
  byte : UInt8
  owed : Nat
  low : Nat
  high : Nat
  code : Nat

/-- The character that a byte opens. -/
def openChar? (start : Nat) (b : UInt8) : Option OpenChar :=
  let n := b.toNat
  if 0xc2 ≤ n && n ≤ 0xdf then some ⟨start, b, 1, 0x80, 0xbf, n - 0xc0⟩
  else if n == 0xe0 then some ⟨start, b, 2, 0xa0, 0xbf, 0⟩
  else if n == 0xed then some ⟨start, b, 2, 0x80, 0x9f, 0xd⟩
  else if 0xe1 ≤ n && n ≤ 0xef then some ⟨start, b, 2, 0x80, 0xbf, n - 0xe0⟩
  else if n == 0xf0 then some ⟨start, b, 3, 0x90, 0xbf, 0⟩
  else if 0xf1 ≤ n && n ≤ 0xf3 then some ⟨start, b, 3, 0x80, 0xbf, n - 0xf0⟩
  else if n == 0xf4 then some ⟨start, b, 3, 0x80, 0x8f, 4⟩
  else none

/-- Read on at an offset, between characters or inside one. -/
def decodeFrom (offset : Nat) : Option OpenChar → Bytes → Except Utf8Fault (List Char)
  | none, [] => .ok []
  | some c, [] => .error ⟨c.start, offset, c.byte, .unexpectedEnd⟩
  | none, b :: rest =>
    if b.toNat < 0x80 then
      (decodeFrom (offset + 1) none rest).map (Char.ofNat b.toNat :: ·)
    else match openChar? offset b with
      | some c => decodeFrom (offset + 1) (some c) rest
      | none => .error ⟨offset, offset + 1, b, .invalidStart⟩
  | some c, b :: rest =>
    if c.low ≤ b.toNat && b.toNat ≤ c.high then
      let code := c.code * 64 + b.toNat % 64
      if c.owed ≤ 1 then (decodeFrom (offset + 1) none rest).map (Char.ofNat code :: ·)
      else
        let c := { c with owed := c.owed - 1, low := 0x80, high := 0xbf, code }
        decodeFrom (offset + 1) (some c) rest
    else .error ⟨c.start, offset, c.byte, .invalidContinuation⟩

/-- The text that bytes encode. -/
def decodeUtf8 (bytes : Bytes) : Except Utf8Fault (List Char) := decodeFrom 0 none bytes

/-- The bytes of a text. -/
def encodeUtf8 (cs : List Char) : Bytes := cs.flatMap String.utf8EncodeChar

end CustomElement.Text
