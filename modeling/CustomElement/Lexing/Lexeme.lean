-- SUMMARY: How long a text of each lexeme class is at the beginning of a list of characters.
import CustomElement.Grammar.Symbol

/-! ## Lexemes

For every class the length of the longest text of that class at the beginning of the characters.
No class holds the empty text, so a length of zero means that there is none. -/

namespace CustomElement.Lexing

open Grammar

/-! ## Character classes -/

/-- Characters that separate tokens and mean nothing else. -/
def isGap (c : Char) : Bool :=
  let n := c.toNat
  (0x9 ≤ n && n ≤ 0xd) || n == 0x20 || n == 0xa0 || n == 0x1680 || (0x2000 ≤ n && n ≤ 0x200b) ||
    n == 0x2028 || n == 0x2029 || n == 0x202f || n == 0x205f || n == 0x2060 || n == 0x3000 ||
    n == 0xfeff

/-- Punctuation, which no name holds. -/
def isPunctuation (c : Char) : Bool :=
  ":;`\"'@#.,|^&<=>+-*/\\%?!~()[]\x7b\x7d".toList.contains c

/-- Characters that a name may go on with. -/
def isNameChar (c : Char) : Bool := 0x1f < c.toNat && !isGap c && !isPunctuation c

/-- Hexadecimal digits. -/
def isHex (c : Char) : Bool :=
  c.isDigit || ('a' ≤ c && c ≤ 'f') || ('A' ≤ c && c ≤ 'F')

/-- Octal digits. -/
def isOctal (c : Char) : Bool := '0' ≤ c && c ≤ '7'

/-- The characters that end a line. -/
def isLineEnd (c : Char) : Bool := c == '\n' || c == '\r' || c == '\u2028' || c == '\u2029'

/-- How many characters of a class stand at the beginning. -/
def span (p : Char → Bool) (cs : List Char) : Nat := (cs.takeWhile p).length

/-! ## Names -/

/-- A character written by its number, as names and strings may have it. -/
def numberEscape : List Char → Nat
  | '\\' :: 'u' :: '\x7b' :: rest =>
    let digits := span isHex rest
    if 0 < digits && (rest.drop digits).head? == some '\x7d' then digits + 4 else 0
  | '\\' :: 'u' :: a :: b :: c :: d :: _ => if [a, b, c, d].all isHex then 6 else 0
  | _ => 0

/-- The rest of a name. -/
def nameTail (cs : List Char) : Nat :=
  match cs with
  | [] => 0
  | c :: rest =>
    if isNameChar c then 1 + nameTail rest
    else
      let n := numberEscape (c :: rest)
      if n = 0 then 0 else n + nameTail ((c :: rest).drop n)
termination_by cs.length
decreasing_by
  · simp
  · simp only [List.length_drop, List.length_cons]
    omega

/-- A name. It does not begin with a digit. -/
def identifier (cs : List Char) : Nat :=
  match cs with
  | [] => 0
  | c :: rest =>
    if isNameChar c && !c.isDigit then 1 + nameTail rest
    else
      let n := numberEscape cs
      if n = 0 then 0 else n + nameTail (cs.drop n)

/-- A name after a hash. -/
def privateIdentifier : List Char → Nat
  | '#' :: rest =>
    let n := identifier rest
    if n = 0 then 0 else n + 1
  | _ => 0

/-- Characters that a name in JSX may begin with. -/
def isJsxStart (c : Char) : Bool := c.isAlpha || c == '_' || c == '$'

/-- A JSX name with a hyphen. -/
def jsxIdentifier : List Char → Nat
  | [] => 0
  | c :: rest =>
    if !isJsxStart c then 0 else
    let isTail := fun c => isJsxStart c || c.isDigit
    let n := span isTail rest
    match rest.drop n with
    | '-' :: rest => n + 2 + span (fun c => isTail c || c == '-') rest
    | _ => 0

/-! ## Numbers -/

/-- Digits of a class with single underscores between them. -/
def digits (p : Char → Bool) : List Char → Nat
  | [] => 0
  | c :: rest => if p c then 1 + tail rest else 0
where
  /-- What digits may follow the first. -/
  tail : List Char → Nat
  | '_' :: c :: rest => if p c then 2 + tail rest else 0
  | c :: rest => if p c then 1 + tail rest else 0
  | [] => 0

/-- The lengths to which an exponent extends a number of length `n`. -/
def withExponent (cs : List Char) (n : Nat) : List Nat :=
  match cs.drop n with
  | e :: rest =>
    if e == 'e' || e == 'E' then
      let sign := match rest with
        | '+' :: _ | '-' :: _ => 1
        | _ => 0
      let d := digits Char.isDigit (rest.drop sign)
      if d = 0 then [n] else [n, n + 1 + sign + d]
    else [n]
  | [] => [n]

/-- The lengths of the whole numbers that a decimal point or exponent may follow: a zero, or digits
that begin with another digit, after at most one zero. -/
def wholes (cs : List Char) : List Nat :=
  let zero := match cs with
    | '0' :: _ => [1]
    | _ => []
  let after := fun skip => match cs.drop skip with
    | c :: rest =>
      if '1' ≤ c && c ≤ '9' then
        let gap := match rest with
          | '_' :: _ => 1
          | _ => 0
        let d := digits Char.isDigit (rest.drop gap)
        if d = 0 then [skip + 1] else [skip + 1, skip + 1 + gap + d]
      else []
    | [] => []
  zero ++ after 0 ++ (if zero.isEmpty then [] else after 1)

/-- The lengths of the integers in a base of their own, or in base ten. -/
def integers (cs : List Char) : List Nat :=
  let based := match cs with
    | '0' :: b :: rest =>
      let d := match b.toLower with
        | 'x' => digits isHex rest
        | 'b' => digits (fun c => c == '0' || c == '1') rest
        | 'o' => digits isOctal rest
        | _ => 0
      if d = 0 then [] else [d + 2]
    | _ => []
  let plain := digits Char.isDigit cs
  if plain = 0 then based else plain :: based

/-- A number: an integer in some base, perhaps a big one (`n`), or a decimal number. -/
def number (cs : List Char) : Nat :=
  let ints := integers cs
  let big := (ints.filter fun n => (cs.drop n).head? == some 'n').map (· + 1)
  let decimal := (wholes cs).flatMap fun n =>
    match cs.drop n with
    | '.' :: rest =>
      let d := digits Char.isDigit rest
      withExponent cs n ++ withExponent cs (n + 1) ++
        (if d = 0 then [] else withExponent cs (n + 1 + d))
    | _ => (withExponent cs n).drop 1
  let fraction := match cs with
    | '.' :: rest =>
      let d := digits Char.isDigit rest
      if d = 0 then [] else withExponent cs (d + 1)
    | _ => []
  (ints ++ big ++ decimal ++ fraction).foldl max 0

/-! ## Comments, escapes and the insides of strings -/

/-- The length up to the end of a block comment, if it ends. -/
def blockEnd : List Char → Option Nat
  | '*' :: '/' :: _ => some 2
  | _ :: rest => (blockEnd rest).map (· + 1)
  | [] => none

/-- A comment to the end of the line, or a block. -/
def comment : List Char → Nat
  | '/' :: '/' :: rest => 2 + span (!isLineEnd ·) rest
  | '/' :: '*' :: rest => match blockEnd rest with
    | some n => n + 2
    | none => 0
  | _ => 0

/-- An escape in a string or template. -/
def escape (cs : List Char) : Nat :=
  match cs with
  | '\\' :: c :: rest =>
    if isOctal c then 1 + span isOctal ((c :: rest).take 3)
    else if c == 'x' then (match rest with
      | a :: b :: _ => if isHex a && isHex b then 4 else 0
      | _ => 0)
    else if c == 'u' then numberEscape cs
    else if c == '\r' || c == '?' then (match rest with
      | d :: _ => if d == '\n' || d == '\u2028' || d == '\u2029' then 3 else 2
      | [] => 2)
    else 2
  | _ => 0

/-- The text of a string between escapes. -/
def quotedText (quote : Char) : List Char → Nat :=
  span fun c => c != quote && c != '\\' && c != '\n' && c != '\r'

/-- The text of a JSX string between character references. -/
def jsxText (quote : Char) : List Char → Nat
  | '&' :: c :: rest => if c == '#' || c.isAlpha then 0 else 2 + jsxText quote rest
  | c :: rest => if c == quote || c == '&' then 0 else 1 + jsxText quote rest
  | [] => 0

/-- A character reference. -/
def characterReference : List Char → Nat
  | '&' :: '#' :: x :: rest =>
    let hex := x == 'x' || x == 'X'
    let (n, after, most, skip) :=
      if hex then (span isHex rest, rest, 6, 3) else (span Char.isDigit (x :: rest), x :: rest, 5, 2)
    if 0 < n && n ≤ most && (after.drop n).head? == some ';' then skip + n + 1 else 0
  | '&' :: rest =>
    let n := span Char.isAlpha rest
    if 0 < n && n ≤ 30 && (rest.drop n).head? == some ';' then n + 2 else 0
  | _ => 0

/-! ## Regular expressions -/

/-- The length of a character class after its opening bracket, if it is closed on its line. -/
def classEnd : List Char → Option Nat
  | [] => none
  | ']' :: _ => some 1
  | '\n' :: _ => none
  | '\\' :: c :: rest => if c == '\n' then none else (classEnd rest).map (· + 2)
  | _ :: rest => (classEnd rest).map (· + 1)

/-- The pattern of a regular expression. -/
def regexPattern (cs : List Char) : Nat :=
  match cs with
  | [] => 0
  | '/' :: _ | '\n' :: _ => 0
  | '\\' :: c :: rest => if c == '\n' then 0 else 2 + regexPattern rest
  | ['\\'] => 0
  | '[' :: rest => match classEnd rest with
    | some n => 1 + n + regexPattern (rest.drop n)
    | none => 0
  | _ :: rest => 1 + regexPattern rest
termination_by cs.length
decreasing_by
  all_goals simp only [List.length_cons, List.length_drop]
  all_goals omega

/-! ## All classes -/

/-- The length of the longest text of a class at the beginning, zero if there is none. -/
def lexemeLength (class_ : Lexeme) (cs : List Char) : Nat :=
  match class_ with
  | .hashBang => match cs with
    | '#' :: '!' :: rest => 2 + span (· != '\n') rest
    | _ => 0
  | .identifier => identifier cs
  | .number => number cs
  | .characterReference => characterReference cs
  | .jsxIdentifier => jsxIdentifier cs
  | .doubleJsxText => jsxText '"' cs
  | .singleJsxText => jsxText '\'' cs
  | .privateIdentifier => privateIdentifier cs
  | .doubleQuotedText => quotedText '"' cs
  | .singleQuotedText => quotedText '\'' cs
  | .escape => escape cs
  | .regexPattern => regexPattern cs
  | .regexEnd => if cs.head? == some '/' then 1 else 0
  | .regexFlags => span (fun c => 'a' ≤ c && c ≤ 'z') cs
  | .comment => comment cs

end CustomElement.Lexing
