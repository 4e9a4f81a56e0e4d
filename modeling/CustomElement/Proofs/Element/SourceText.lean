-- SUMMARY: A source file is read exactly if its bytes are UTF-8, and else the first bad byte is reported.
import Mathlib.Data.List.Basic
import CustomElement.Element.SourceText
import CustomElement.Proofs.Text.Fault

/-! ## Reading source files

Whatever bytes a source file holds, either they are the encoding of a text, which is read with a
line feed for every line end, or the report names the file and the byte behind the longest valid
part. -/

namespace CustomElement.Element

open Files Report Text

variable {d : Disk} {path : String} {bytes : Bytes}

/-- What is reported of a file whose bytes are valid up to an offset only. -/
def badByteDiagnostic (path : String) (offset : Nat) (byte : UInt8) : Diagnostic where
  subject := .compilation
  message := path ++ " is not valid UTF-8 (byte 0x" ++ hexByte byte ++ " at offset " ++
    toString offset ++ ")"
  filename := some path
  suggestion := some "Save the file as UTF-8"

theorem readSourceText_of_ok {cs : List Char} (h : d.readFile path = .ok bytes)
    (hcs : decodeUtf8 bytes = .ok cs) :
    readSourceText d path = .ok (String.ofList (unifyLineEnds cs)) := by
  simp only [readSourceText, Disk.readText, h, Disk.textOfBytes, hcs]
  rfl

theorem readSourceText_of_error {f : Utf8Fault} (h : d.readFile path = .ok bytes)
    (hf : decodeUtf8 bytes = .error f) :
    readSourceText d path = .error (badByteDiagnostic path f.start f.byte) := by
  simp only [readSourceText, Disk.readText, h, Disk.textOfBytes, hf]
  rfl

/-- A file that holds UTF-8 is read with a line feed for every pair of a carriage return and a line
feed and for every other carriage return. Of a file that does not, the byte is reported that stands
behind the longest valid part, with its offset. -/
theorem readSourceText_cases (h : d.readFile path = .ok bytes) :
    (∀ cs, encodeUtf8 cs = bytes → readSourceText d path =
        .ok (String.ofList ((unifyPairs cs).map fun c => if c = '\r' then '\n' else c))) ∧
      (¬ IsUtf8 bytes → ∃ offset byte, FirstFault bytes offset byte ∧
        readSourceText d path = .error (badByteDiagnostic path offset byte)) := by
  constructor
  · intro cs hcs
    rw [readSourceText_of_ok h (decodeUtf8_eq_ok_iff.mpr hcs), unifyLineEnds_eq_map]
  · intro hbad
    obtain ⟨f, hf⟩ := exists_decodeUtf8_eq_error hbad
    exact ⟨f.start, f.byte, firstFault_of_decodeUtf8 hf, readSourceText_of_error h hf⟩

/-! ### A character that is cut off -/

/-- Bytes that end with the first two bytes of a character that has three. -/
def cutBytes : Bytes := [0x61, 13, 10, 0xe2, 0x98]

/-- A disk with a file of these bytes. -/
def cutDisk : Disk where
  root := .directory [("a.js", .file cutBytes)]
  here := []

theorem firstFault_cutBytes : FirstFault cutBytes 3 0xe2 :=
  firstFault_of_decodeUtf8 (f := ⟨3, 5, 0xe2, .unexpectedEnd⟩) rfl

theorem readSourceText_cases_cut :
    cutDisk.readFile "a.js" = .ok cutBytes ∧ ¬ IsUtf8 cutBytes ∧ FirstFault cutBytes 3 0xe2 ∧
      readSourceText cutDisk "a.js" = .error (badByteDiagnostic "a.js" 3 0xe2) := by
  have hfile : cutDisk.readFile "a.js" = .ok cutBytes := by decide +kernel
  have hbad : ¬ IsUtf8 cutBytes := fun h =>
    absurd (firstFault_cutBytes.longest 5 (Nat.le_refl 5) h) (by decide)
  obtain ⟨offset, byte, hfault, hread⟩ := (readSourceText_cases hfile).2 hbad
  obtain ⟨rfl, rfl⟩ := hfault.eq firstFault_cutBytes
  exact ⟨hfile, hbad, hfault, hread⟩

end CustomElement.Element
