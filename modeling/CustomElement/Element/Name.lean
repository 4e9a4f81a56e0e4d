-- SUMMARY: The tag and the class name of a component's element.
import CustomElement.Text.Case

/-! ## Names of elements

A tag is a prefix and the component's name in lower case, with a hyphen in front of what was upper
case; hyphens at the start of the converted name are dropped. No run of capitals and no digit is
treated in a way of its own. -/

namespace CustomElement.Element

/-- A character of a name in the tag. -/
def kebabChar (c : Char) : List Char :=
  if Text.isUpper c then '-' :: Text.lowerChar c else [c]

/-- A name in the tag, before the prefix is added. -/
def kebab (name : List Char) : List Char :=
  (name.flatMap kebabChar).dropWhile (· = '-')

/-- The tag of a component's element. -/
def tagName (start name : String) : String := start ++ String.ofList (kebab name.toList)

/-- The class of a component's element. -/
def className (suffix name : String) : String := name ++ suffix

end CustomElement.Element
