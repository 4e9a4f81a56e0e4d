-- SUMMARY: Values checked against what is wanted, with all problems and where they lie.
import CustomElement.Json.Binary

/-! ## Validation

A check gives what was wanted or a list of problems. Checks of several parts report the problems of
all of them, in order. Whole numbers and truth values are read leniently: from each other, from
decimals and from text. -/

namespace CustomElement.Json

/-! ## Problems -/

/-- A step from a value to a part of it. A step may also name the alternative that was chosen. -/
inductive Step where
  | field (name : String)
  | index (i : Nat)
  deriving DecidableEq, Repr

/-- What is wrong with a value. -/
inductive ProblemKind where
  | missing
  | noString
  | noList
  /-- The value is none of the fixed words. -/
  | noWord (words : List String)
  /-- No object stands where the alternatives are objects. -/
  | noAlternative
  /-- No object stands where fields are wanted. -/
  | noObject
  | tagMissing
  | tagUnknown
  | intUnreadable
  | intTooLong
  | intTooLarge
  | intNotFinite
  | intFraction
  | noInt
  | boolUnreadable
  | noBool
  | unknownField
  /-- The value breaks a rule that is given in words. -/
  | rule (text : String)
  deriving DecidableEq, Repr

/-- The name of a kind of problem. -/
def ProblemKind.name : ProblemKind → String
  | missing => "missing"
  | noString => "string_type"
  | noList => "list_type"
  | noWord _ => "literal_error"
  | noAlternative => "dict_type"
  | noObject => "model_type"
  | tagMissing => "union_tag_not_found"
  | tagUnknown => "union_tag_invalid"
  | intUnreadable => "int_parsing"
  | intTooLong | intTooLarge => "int_parsing_size"
  | intNotFinite => "finite_number"
  | intFraction => "int_from_float"
  | noInt => "int_type"
  | boolUnreadable => "bool_parsing"
  | noBool => "bool_type"
  | unknownField => "extra_forbidden"
  | rule _ => "value_error"

/-- A problem and the way to it. -/
structure Problem where
  path : List Step
  kind : ProblemKind
  deriving DecidableEq, Repr

/-- What was wanted, or the problems. -/
inductive Checked (α : Type) where
  | ok (a : α)
  | problems (ps : List Problem)
  deriving Repr

namespace Checked

/-- One problem with the value itself. -/
def fail {α : Type} (kind : ProblemKind) : Checked α := problems [⟨[], kind⟩]

/-- The result, converted. -/
def map {α β : Type} (f : α → β) : Checked α → Checked β
  | ok a => ok (f a)
  | problems ps => problems ps

/-- The results of two checks together, or the problems of both. -/
def both {α β : Type} : Checked (α → β) → Checked α → Checked β
  | ok f, ok a => ok (f a)
  | ok _, problems ps => problems ps
  | problems ps, ok _ => problems ps
  | problems ps, problems qs => problems (ps ++ qs)

instance : Applicative Checked where
  pure := ok
  map := map
  seq f a := both f (a ())

/-- A check of a part, as a check of the whole. -/
def within {α : Type} (step : Step) : Checked α → Checked α
  | ok a => ok a
  | problems ps => problems (ps.map fun p => { p with path := step :: p.path })

/-- The checks of the items of a list; the first has the given number. -/
def all {α : Type} (first : Nat) : List (Checked α) → Checked (List α)
  | [] => ok []
  | x :: xs => both (map List.cons (within (.index first) x)) (all (first + 1) xs)

end Checked

/-! ## Text -/

/-- A string. -/
def Value.asString : Value → Checked String
  | string s => .ok s
  | _ => .fail .noString

/-- A value or nothing. -/
def Value.orNull {α : Type} (read : Value → Checked α) : Value → Checked (Option α)
  | null => .ok none
  | v => some <$> read v

/-- One of some words, by what it stands for. -/
def Value.asWord {α : Type} (words : List (String × α)) (v : Value) : Checked α :=
  match v with
  | string s =>
    match words.find? fun w => w.1 == s with
    | some w => .ok w.2
    | none => .fail (.noWord (words.map (·.1)))
  | _ => .fail (.noWord (words.map (·.1)))

/-! ## Truth values -/

/-- A character in lower case, if it is in ASCII. -/
def lowerAscii (c : Char) : Char :=
  if 'A' ≤ c && c ≤ 'Z' then Char.ofNat (c.toNat + 32) else c

/-- The truth value that a word stands for, in any case. -/
def boolOfWord? (s : String) : Option Bool :=
  let s := String.ofList (s.toList.map lowerAscii)
  if ["1", "on", "t", "true", "y", "yes"].contains s then some true
  else if ["0", "off", "f", "false", "n", "no"].contains s then some false
  else none

/-- The truth value that a number stands for. -/
def boolOfInt? (n : Int) : Option Bool :=
  if n = 0 then some false else if n = 1 then some true else none

/-- Does a number fit into 64 bits? -/
def isSmall (n : Int) : Bool := -(Int.pow 2 63) ≤ n && n < Int.pow 2 63

/-- A truth value, read leniently. -/
def Value.asBool (v : Value) : Checked Bool :=
  let orUnreadable : Option Bool → Checked Bool
    | some b => .ok b
    | none => .fail .boolUnreadable
  match v with
  | bool b => .ok b
  | string s => orUnreadable (boolOfWord? s)
  | int n => if isSmall n then orUnreadable (boolOfInt? n) else .fail .noBool
  | real x =>
    match x.whole with
    | .exact n => orUnreadable (boolOfInt? n)
    | _ => .fail .noBool
  | _ => .fail .noBool

/-! ## Whole numbers -/

/-- White space around a number. -/
def isSpace (c : Char) : Bool :=
  let n := c.toNat
  (0x9 ≤ n && n ≤ 0xd) || n == 0x20 || n == 0x85 || n == 0xa0 || n == 0x1680 ||
    (0x2000 ≤ n && n ≤ 0x200a) || n == 0x2028 || n == 0x2029 || n == 0x202f || n == 0x205f ||
    n == 0x3000

/-- The characters without white space around them. -/
def trim (cs : List Char) : List Char :=
  ((cs.dropWhile isSpace).reverse.dropWhile isSpace).reverse

/-- Is the character a digit? -/
def isDecimalDigit (c : Char) : Bool := '0' ≤ c && c ≤ '9'

/-- A number without zeros before it. Underscores may stand between the zeros. -/
def dropZeros (cs : List Char) : Option (List Char) :=
  let rec go (last : Char) : List Char → Option (List Char)
    | [] => some [last]
    | c :: rest =>
      if c = '0' || c = '_' then go c rest
      else if c = '.' then some (last :: c :: rest)
      else if isDecimalDigit c then some (c :: rest)
      else none
  match cs with
  | '0' :: rest => go '0' rest
  | c :: _ => if isDecimalDigit c || c = '-' then some cs else none
  | [] => none

/-- A number without a fraction of zeros. -/
def dropFraction (cs : List Char) : List Char :=
  let whole := cs.takeWhile (· ≠ '.')
  match cs.drop whole.length with
  | _ :: zeros => if zeros.all (· == '0') then whole else cs
  | [] => cs

/-- A number without underscores, which may stand one at a time and not at the ends. -/
def dropUnderscores (cs : List Char) : Option (List Char) :=
  let rec paired : List Char → Bool
    | '_' :: '_' :: _ => true
    | _ :: rest => paired rest
    | [] => false
  if cs.head? == some '_' || cs.getLast? == some '_' || paired cs then none
  else some (cs.filter (· ≠ '_'))

/-- The number of digits; a zero stands first only alone. -/
def natOfText? (cs : List Char) : Option Nat :=
  match cs with
  | [] => none
  | '0' :: _ :: _ => none
  | _ =>
    if cs.all isDecimalDigit then
      some (cs.foldl (fun n d => n * 10 + (d.toNat - 48)) 0)
    else none

/-- The number of a text with an optional sign. -/
def intOfText? (cs : List Char) : Option Int :=
  match cs with
  | '-' :: ds => (natOfText? ds).map fun n => -(n : Int)
  | _ => (natOfText? cs).map Int.ofNat

/-- The whole number that a text is read as: with white space around it, a sign, zeros before it,
underscores between its digits, or a fraction of zeros. -/
def intOfString? (s : String) : Option Int := do
  let cs := trim s.toList
  let cs ← match cs with
    | '+' :: '-' :: _ => none
    | '+' :: rest => some rest
    | _ => some cs
  let cs ← dropZeros cs
  let cs ← dropUnderscores (dropFraction cs)
  intOfText? cs

/-- The longest text that is read as a number. -/
def maxIntText : Nat := 4300

/-- A whole number, read leniently. -/
def Value.asInt : Value → Checked Int
  | int n => .ok n
  | bool b => .ok (if b then 1 else 0)
  | real x =>
    match x.whole with
    | .exact n => .ok n
    | .fraction => .fail .intFraction
    | .tooLarge => .fail .intTooLarge
    | .notFinite => .fail .intNotFinite
  | string s =>
    if maxIntText < s.length then .fail .intTooLong else
    match intOfString? s with
    | some n => .ok n
    | none => .fail .intUnreadable
  | _ => .fail .noInt

end CustomElement.Json
