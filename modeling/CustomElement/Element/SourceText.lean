-- SUMMARY: The text of a source file, or what to report.
import CustomElement.Files.Disk
import CustomElement.Report.Diagnostic

/-! ## Source texts

A source file must be there and be UTF-8. What is reported names the file, and the first byte that
is not UTF-8 by its value and offset. -/

namespace CustomElement.Element

open Files Report

/-- What is reported of a source file that cannot be read as text. -/
def sourceDiagnostic (path : String) : Disk.TextFault → Diagnostic
  | .unreadable f =>
    { subject := .compilation
      message := "Cannot read " ++ path ++ ": " ++ f.fault.message
      filename := path }
  | .noUtf8 f =>
    { subject := .compilation
      message := path ++ " is not valid UTF-8 (byte 0x" ++ Text.hexByte f.byte ++ " at offset " ++
        toString f.start ++ ")"
      filename := path
      suggestion := "Save the file as UTF-8" }

/-- The text of a source file. -/
def readSourceText (d : Disk) (path : String) : Except Diagnostic String :=
  (d.readText path).mapError (sourceDiagnostic path)

end CustomElement.Element
