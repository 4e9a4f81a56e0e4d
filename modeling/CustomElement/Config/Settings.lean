-- SUMMARY: How elements are named, built and registered.
import CustomElement.Text.Case

/-! ## Settings

Every setting has a default. The rules for the prefix of tags and for the suffix of classes belong
to the type, so that settings that break them do not exist. -/

namespace CustomElement.Config

/-- Whether the shadow root of an element can be reached from outside. -/
inductive ShadowMode where
  | opened
  | closed
  deriving DecidableEq, Repr, Inhabited

/-- The word for a mode. -/
def ShadowMode.word : ShadowMode → String
  | opened => "open"
  | closed => "closed"

/-- The mode of a word. -/
def ShadowMode.ofWord? (s : String) : Option ShadowMode :=
  if s = "open" then some .opened else if s = "closed" then some .closed else none

/-- May a text begin every tag? The tag of an element has a hyphen, is in lower case and begins with
a letter. -/
def isTagPrefix (s : String) : Bool :=
  s.toList.contains '-' && Text.lower s == s && s.toList.head?.any Text.isLetter

theorem isTagPrefix_fluxel : isTagPrefix "fluxel-" = true := by decide +kernel

theorem element_ne_empty : "Element" ≠ "" := by decide

/-- The settings. -/
structure Settings where
  tagPrefix : String := "fluxel-"
  classSuffix : String := "Element"
  registry : String := "customElements"
  /-- The class that elements extend, unless there is none or its name is empty. -/
  baseClass : Option String := some "HTMLElement"
  shadowMode : ShadowMode := .opened
  /-- Does a declaration that was exported stay in the module? -/
  retainDeclaration : Bool := false
  tagPrefix_ok : isTagPrefix tagPrefix = true := by
    first | with_reducible exact isTagPrefix_fluxel | decide +kernel
  classSuffix_ok : classSuffix ≠ "" := by
    first | with_reducible exact element_ne_empty | decide
  deriving DecidableEq, Repr

instance : Inhabited Settings := ⟨{}⟩

end CustomElement.Config
