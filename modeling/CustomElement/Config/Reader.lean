-- SUMMARY: Settings from a JSON document, with all problems of a document that is refused.
import CustomElement.Config.Settings
import CustomElement.Json.Printer
import CustomElement.Json.Reader
import CustomElement.Json.Validation
import CustomElement.Report.Diagnostic

/-! ## Settings from JSON

A document is an object with any of the settings as fields and no other field. Problems come in the
order of the settings, then unknown fields in the order of the document. -/

namespace CustomElement.Config

open Json

/-! ## Fields -/

/-- The rule for the prefix of tags. -/
def tagPrefixRule : String :=
  "tag_prefix must be lowercase, start with a letter and contain a '-'"

/-- The rule for the suffix of classes. -/
def classSuffixRule : String := "class_suffix must not be empty"

/-- A text that keeps a rule. -/
def checked (p : String → Bool) (rule : String) (s : String) : Checked { s // p s = true } :=
  if h : p s = true then .ok ⟨s, h⟩ else .fail (.rule rule)

/-- A text that keeps a rule, from a value. -/
def asChecked (p : String → Bool) (rule : String) (v : Value) : Checked { s // p s = true } :=
  match v with
  | .string s => checked p rule s
  | _ => .fail .noString

/-- The words for the modes of the shadow root. -/
def shadowWords : List (String × ShadowMode) :=
  [ShadowMode.opened, .closed].map fun m => (m.word, m)

/-- The names of the settings, in order. -/
def fieldNames : List String :=
  ["tag_prefix", "class_suffix", "registry", "base_class", "shadow_mode", "retain_declaration"]

/-- A field with a default. -/
def field {α : Type} (fs : List (String × Value)) (name : String) (d : α)
    (read : Value → Checked α) : Checked α :=
  match find? fs name with
  | some v => Checked.within (.field name) (read v)
  | none => .ok d

/-- The settings made of their parts. -/
def Settings.ofParts (tagPrefix : { s // isTagPrefix s = true })
    (classSuffix : { s : String // (s != "") = true }) (registry : String)
    (baseClass : Option String) (shadowMode : ShadowMode) (retainDeclaration : Bool) : Settings where
  tagPrefix := tagPrefix.1
  classSuffix := classSuffix.1
  registry := registry
  baseClass := baseClass
  shadowMode := shadowMode
  retainDeclaration := retainDeclaration
  tagPrefix_ok := tagPrefix.2
  classSuffix_ok := by simpa using classSuffix.2

/-- The problems with unknown fields. -/
def unknownFields (fs : List (String × Value)) : List Problem :=
  (fs.filter fun f => !fieldNames.contains f.1).map fun f => ⟨[.field f.1], .unknownField⟩

/-- Nothing, or the problems with unknown fields. -/
def noUnknownField (fs : List (String × Value)) : Checked Unit :=
  match unknownFields fs with
  | [] => .ok ()
  | ps => .problems ps

/-- The settings of a JSON value. -/
def Settings.ofValue (v : Value) : Checked Settings :=
  match v with
  | .object fs =>
    let d : Settings := {}
    (fun s (_ : Unit) => s) <$>
      (Settings.ofParts
        <$> field fs "tag_prefix" ⟨d.tagPrefix, d.tagPrefix_ok⟩ (asChecked isTagPrefix tagPrefixRule)
        <*> field fs "class_suffix" ⟨d.classSuffix, by decide⟩
          (asChecked (· != "") classSuffixRule)
        <*> field fs "registry" d.registry Value.asString
        <*> field fs "base_class" d.baseClass (Value.orNull Value.asString)
        <*> field fs "shadow_mode" d.shadowMode (Value.asWord shadowWords)
        <*> field fs "retain_declaration" d.retainDeclaration Value.asBool)
      <*> noUnknownField fs
  | _ => .fail .noObject

/-! ## Documents -/

/-- Why a document is refused. -/
inductive SettingsFault where
  | noJson (f : Fault)
  | invalid (ps : List Problem)
  deriving Repr

/-- The settings of a document. -/
def Settings.parse (text : String) : Except SettingsFault Settings :=
  match Json.parse text.toList with
  | .error f => .error (.noJson f)
  | .ok v =>
    match Settings.ofValue v with
    | .ok s => .ok s
    | .problems ps => .error (.invalid ps)

/-- Words as alternatives. -/
def alternatives : List String → String
  | [] => ""
  | [w] => "'" ++ w ++ "'"
  | [w, w'] => "'" ++ w ++ "' or '" ++ w' ++ "'"
  | w :: ws => "'" ++ w ++ "', " ++ alternatives ws

/-- A kind of problem in words. -/
def problemMessage : ProblemKind → String
  | .noString => "Input should be a valid string"
  | .noWord words => "Input should be " ++ alternatives words
  | .boolUnreadable => "Input should be a valid boolean, unable to interpret input"
  | .noBool => "Input should be a valid boolean"
  | .unknownField => "Extra inputs are not permitted"
  | .rule text => "Value error, " ++ text
  | .noObject | .noAlternative => "Input should be an object"
  | .missing => "Field required"
  | .noList => "Input should be a valid list"
  | .tagMissing | .tagUnknown => "Input tag should be known"
  | .intUnreadable | .intTooLong | .intTooLarge | .intNotFinite | .intFraction | .noInt =>
    "Input should be a valid integer"

/-- A step in words. -/
def stepText : Step → String
  | .field name => name
  | .index i => toString i

/-- A problem with the field that it is about. -/
def problemText (p : Problem) : String :=
  let place := ".".intercalate (p.path.map stepText)
  (if place = "" then "<root>" else place) ++ ": " ++ problemMessage p.kind

/-- The fault in words. -/
def SettingsFault.message (text : String) : SettingsFault → String
  | noJson f => "<root>: Invalid JSON: " ++ f.message text.toList
  | invalid ps => "; ".intercalate (ps.map problemText)

/-- The diagnostic for a fault in a document from somewhere. -/
def SettingsFault.diagnostic (origin text : String) (f : SettingsFault) : Report.Diagnostic where
  subject := .configuration
  message := "Invalid configuration in " ++ origin ++ ": " ++ f.message text
  filename := origin
  suggestion := "Run 'fluxel init' to write a configuration with the default values"

/-- The settings of a document from somewhere, or what to report. -/
def readSettings (text : String) (origin : String := "<config>") :
    Except Report.Diagnostic Settings :=
  (Settings.parse text).mapError (·.diagnostic origin text)

/-! ## Writing -/

/-- The settings as a JSON value. -/
def Settings.toValue (s : Settings) : Value :=
  .object [("tag_prefix", .string s.tagPrefix), ("class_suffix", .string s.classSuffix),
    ("registry", .string s.registry), ("base_class", (s.baseClass.map Value.string).getD .null),
    ("shadow_mode", .string s.shadowMode.word), ("retain_declaration", .bool s.retainDeclaration)]

/-- The settings as a document. -/
def Settings.document (s : Settings) : String := s.toValue.indented ++ "\n"

end CustomElement.Config
