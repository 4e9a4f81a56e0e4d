-- SUMMARY: Settings that are written as a document are read back.
import CustomElement.Config.Load
import CustomElement.Element.Program
import CustomElement.Proofs.Files.Writing
import CustomElement.Proofs.Json.Checked
import CustomElement.Proofs.Json.Documents

/-! ## Settings as documents

The document of settings has all of them as fields, each with a value that its rule accepts. So
reading it back gives the same settings, whatever texts they hold, and so does reading a file that
it was written to. -/

namespace CustomElement.Config

open Files Json

theorem field_eq_ok {α : Type} {fs : List (String × Value)} {name : String} {d a : α}
    {read : Value → Checked α} {v : Value} (hv : find? fs name = some v) (hread : read v = .ok a) :
    field fs name d read = .ok a := by
  simp only [field, hv, hread, Checked.within_ok]

theorem asChecked_string (p : String → Bool) (rule : String) {s : String} (h : p s = true) :
    asChecked p rule (.string s) = .ok ⟨s, h⟩ := by
  rw [asChecked, checked, dif_pos h]

namespace Settings

/-- The value of settings is read back. -/
theorem ofValue_toValue (s : Settings) : ofValue s.toValue = .ok s := by
  have hprefix := asChecked_string isTagPrefix tagPrefixRule s.tagPrefix_ok
  have hsuffix := asChecked_string (· != "") classSuffixRule (bne_iff_ne.mpr s.classSuffix_ok)
  have hbase : ((s.baseClass.map Value.string).getD .null).orNull Value.asString =
      .ok s.baseClass := by
    cases s.baseClass <;> rfl
  have hmode : (Value.string s.shadowMode.word).asWord shadowWords = .ok s.shadowMode := by
    cases s.shadowMode <;> rfl
  simp only [toValue, ofValue]
  rw [field_eq_ok (v := .string s.tagPrefix) (by simp) hprefix,
    field_eq_ok (v := .string s.classSuffix) (by simp) hsuffix,
    field_eq_ok (v := .string s.registry) (a := s.registry) (by simp) rfl,
    field_eq_ok (by simp) hbase, field_eq_ok (by simp) hmode,
    field_eq_ok (v := .bool s.retainDeclaration) (a := s.retainDeclaration) (by simp) rfl]
  rfl

/-- The value of settings is a flat object. -/
theorem exists_toValue_eq (s : Settings) :
    ∃ fields, s.toValue = .object fields ∧ ∀ f ∈ fields, f.2.isFlat = true := by
  have hbase : ((s.baseClass.map Value.string).getD .null).isFlat = true := by
    cases s.baseClass <;> rfl
  refine ⟨_, rfl, ?_⟩
  simp only [List.forall_mem_cons]
  exact ⟨rfl, rfl, rfl, hbase, rfl, rfl, fun _ h => nomatch h⟩

/-- Settings are read back from their document. -/
theorem parse_document (s : Settings) : parse s.document = .ok s := by
  obtain ⟨fields, hfields, hflat⟩ := s.exists_toValue_eq
  have hread : Json.parse s.document.toList = .ok s.toValue := by
    rw [document, hfields]
    exact parse_flatObject hflat
  rw [parse, hread]
  simp only [ofValue_toValue]

/-- The document is in ASCII, whatever texts the settings hold. -/
theorem inAscii_document (s : Settings) : ∀ c ∈ s.document.toList, InAscii c := by
  obtain ⟨fields, hfields, hflat⟩ := s.exists_toValue_eq
  rw [document, hfields]
  exact inAscii_flatObject hflat

end Settings

/-! ## Written settings -/

/-- Settings that are written as a document are read back from it, whatever it is said to come from.
The document is in ASCII, so that a file that it was written to gives the settings too. -/
theorem readSettings_document (s : Settings) (origin : String) :
    readSettings s.document origin = .ok s ∧ (∀ c ∈ s.document.toList, InAscii c) ∧
      ∀ (d d' : Disk) (home path : String), path ≠ "" → d.writeText path s.document = .ok d' →
        loadSettings d' home (some path) = .ok s := by
  have hread (origin : String) : readSettings s.document origin = .ok s := by
    rw [readSettings, s.parse_document]
    rfl
  refine ⟨hread origin, s.inAscii_document, fun d d' home path hpath hwrite => ?_⟩
  have hreturn : '\r' ∉ s.document.toList := by
    intro hmem
    exact absurd (s.inAscii_document _ hmem) (by decide)
  obtain ⟨hexists, htext⟩ := Disk.readText_of_writeText hpath hreturn hwrite
  rw [loadSettings]
  simp only [hexists, if_true, settingsOfFile, htext, hread]

/-! ### Texts that must be escaped -/

/-- Settings with quotes, controls, line ends and characters of one to four bytes in their texts. -/
def escapedSettings : Settings where
  tagPrefix := "\u00fc-\"\\"
  classSuffix := "\u0000\u2028\u007f"
  registry := "\t\r\n\u0008\u000c/"
  baseClass := some "😀"
  shadowMode := .closed
  retainDeclaration := true

/-- An empty directory. -/
def emptyDisk : Disk where
  root := .directory []
  here := []

theorem readSettings_document_escaped :
    readSettings escapedSettings.document "fluxel.json" = .ok escapedSettings ∧
      (∀ c ∈ escapedSettings.document.toList, InAscii c) ∧
      ∃ d, emptyDisk.writeText "fluxel.json" escapedSettings.document = .ok d ∧
        loadSettings d "home" (some "fluxel.json") = .ok escapedSettings := by
  obtain ⟨hread, hascii, hload⟩ := readSettings_document escapedSettings "fluxel.json"
  exact ⟨hread, hascii, _, rfl, hload emptyDisk _ "home" "fluxel.json" (by decide) rfl⟩

end CustomElement.Config

namespace CustomElement.Element

open Config

/-- A host can hand over all settings there are. -/
theorem hostSettings_document (s : Settings) : hostSettings (some s.document) = .ok s := by
  rw [hostSettings, readSettings, Settings.parse_document]
  rfl

end CustomElement.Element
