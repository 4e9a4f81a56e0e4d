-- SUMMARY: JSON values from text, with the place and reason of the first fault.
import CustomElement.Json.Value
import CustomElement.Text.Hex
import CustomElement.Text.Lines
import CustomElement.Text.Offsets

/-! ## Reading JSON

A text is read from left to right. What is read of it is always followed by a rest of the text, and
a fault keeps the rest at which it was found: its line and column follow from that. Besides JSON's
own numbers `NaN`, `Infinity` and `-Infinity` are read. -/

namespace CustomElement.Json

/-! ## Faults -/

/-- What is wrong with a text. -/
inductive FaultKind where
  | endInValue | endInList | endInObject | endInString
  | expectedColon | expectedListEnd | expectedObjectEnd | expectedWord | expectedValue
  | invalidEscape | invalidNumber | controlCharacter | keyNoString | loneSurrogate
  | unfinishedEscape | trailingComma | trailingCharacters | tooDeep
  deriving DecidableEq, Repr

/-- The reason in words. -/
def FaultKind.message : FaultKind → String
  | endInValue => "EOF while parsing a value"
  | endInList => "EOF while parsing a list"
  | endInObject => "EOF while parsing an object"
  | endInString => "EOF while parsing a string"
  | expectedColon => "expected `:`"
  | expectedListEnd => "expected `,` or `]`"
  | expectedObjectEnd => "expected `,` or `\x7d`"
  | expectedWord => "expected ident"
  | expectedValue => "expected value"
  | invalidEscape => "invalid escape"
  | invalidNumber => "invalid number"
  | controlCharacter => "control character (\\u0000-\\u001F) found while parsing a string"
  | keyNoString => "key must be a string"
  | loneSurrogate => "lone leading surrogate in hex escape"
  | unfinishedEscape => "unexpected end of hex escape"
  | trailingComma => "trailing comma"
  | trailingCharacters => "trailing characters"
  | tooDeep => "recursion limit exceeded"

/-- A fault, with the rest of the text from the character that is wrong. -/
structure Fault where
  kind : FaultKind
  rest : List Char
  deriving DecidableEq, Repr

/-- The line and the column of the place where a rest of a text begins. The column is that behind
the first byte of the rest, or that of the end of the text. -/
def placeOfRest (text rest : List Char) : Nat × Nat :=
  let before := text.take (text.length - rest.length)
  let line := Text.lineAfter before
  let bytes := Text.byteLength (before.reverse.takeWhile (· ≠ '\n'))
  match rest with
  | [] => (line, bytes)
  | c :: _ => if c = '\n' then (line + 1, 0) else (line, bytes + 1)

/-- The fault in words, with its place in the text. -/
def Fault.message (text : List Char) (f : Fault) : String :=
  let (line, column) := placeOfRest text f.rest
  f.kind.message ++ " at line " ++ toString line ++ " column " ++ toString column

/-- A fault at a place. -/
def faultAt {α : Type} (kind : FaultKind) (rest : List Char) : Except Fault α := .error ⟨kind, rest⟩

/-! ## Blanks and words -/

/-- The characters between values. -/
def isBlank (c : Char) : Bool := c == ' ' || c == '\t' || c == '\n' || c == '\r'

/-- Past blanks. -/
def skipBlanks (cs : List Char) : List Char := cs.dropWhile isBlank

/-- Past the letters of a word. -/
def readLetters : List Char → List Char → Except Fault (List Char)
  | [], cs => .ok cs
  | _ :: _, [] => faultAt .endInValue []
  | w :: ws, c :: cs => if w = c then readLetters ws cs else faultAt .expectedWord (c :: cs)

/-- A word that stands for a value. -/
def readWord (word : String) (v : Value) (cs : List Char) : Except Fault (Value × List Char) :=
  (readLetters word.toList cs).map fun rest => (v, rest)

/-! ## Numbers -/

/-- Is the character a digit? -/
def isDigit (c : Char) : Bool := '0' ≤ c && c ≤ '9'

/-- The number that digits stand for. -/
def natOfDigits (ds : List Char) : Nat := ds.foldl (fun n d => n * 10 + (d.toNat - 48)) 0

/-- At least one digit. -/
def readDigits (cs : List Char) : Except Fault (List Char × List Char) :=
  match cs with
  | [] => faultAt .endInValue []
  | d :: _ => if isDigit d then .ok (cs.span isDigit) else faultAt .invalidNumber cs

/-- The power of ten behind the `e`. -/
def readExponent (cs : List Char) : Except Fault (Int × List Char) :=
  match cs with
  | '-' :: rest => (readDigits rest).map fun (ds, rest) => (-(natOfDigits ds : Int), rest)
  | '+' :: rest => (readDigits rest).map fun (ds, rest) => ((natOfDigits ds : Int), rest)
  | _ => (readDigits cs).map fun (ds, rest) => ((natOfDigits ds : Int), rest)

/-- A number with a sign. -/
def signed (negative : Bool) (n : Nat) : Int := if negative then -n else n

/-- The decimal of digits with an exponent, if one follows. -/
def readPower (negative : Bool) (digits : List Char) (exponent : Int) (cs : List Char) :
    Except Fault (Value × List Char) :=
  let decimal (e : Int) : Value := .real (.finite (signed negative (natOfDigits digits)) e)
  match cs with
  | 'e' :: rest | 'E' :: rest =>
    (readExponent rest).map fun (e, rest) => (decimal (exponent + e), rest)
  | _ => .ok (decimal exponent, cs)

/-- What follows the digits before the point: a fraction, an exponent, or nothing. -/
def readTail (negative : Bool) (digits cs : List Char) : Except Fault (Value × List Char) :=
  match cs with
  | '.' :: rest => do
    let (fraction, rest) ← readDigits rest
    readPower negative (digits ++ fraction) (-fraction.length) rest
  | 'e' :: _ | 'E' :: _ => readPower negative digits 0 cs
  | _ => .ok (.int (signed negative (natOfDigits digits)), cs)

/-- A number behind its sign. Only a zero may begin with a zero. -/
def readUnsigned (negative : Bool) (cs : List Char) : Except Fault (Value × List Char) :=
  match cs with
  | [] => faultAt .endInValue []
  | '0' :: rest =>
    match rest with
    | d :: _ => if isDigit d then faultAt .invalidNumber rest else readTail negative ['0'] rest
    | [] => readTail negative ['0'] rest
  | 'I' :: rest => readWord "nfinity" (.real (.infinite negative)) rest
  | d :: _ =>
    if isDigit d then
      let (digits, rest) := cs.span isDigit
      readTail negative digits rest
    else faultAt .invalidNumber cs

/-! ## Strings -/

/-- Hexadecimal digits: one and as many more as `left` says. `n` is the number that stands before
them. The rest begins with the last of them, for a fault may lie there. -/
def readHexDigits : Nat → Nat → List Char → Except Fault (Nat × List Char)
  | _, _, [] => faultAt .endInString []
  | left, n, c :: rest =>
    match Text.hexValue? c, left with
    | none, _ => faultAt .invalidEscape (c :: rest)
    | some d, 0 => .ok (n * 16 + d, c :: rest)
    | some d, left + 1 => readHexDigits left (n * 16 + d) rest

/-- The four hexadecimal digits of an escape. -/
def readHex4 (cs : List Char) : Except Fault (Nat × List Char) :=
  if Text.byteLength (cs.take 4) < 4 then faultAt .endInString [] else readHexDigits 3 0 cs

/-- The character that a pair of numbers stands for. -/
def pairChar (n m : Nat) : Char := Char.ofNat ((n - 0xd800) * 0x400 + (m - 0xdc00) + 0x10000)

/-- The character behind `\u`. Beyond the first 65536 characters two numbers stand for one. -/
def readUnicode (cs : List Char) : Except Fault (Char × List Char) := do
  let (n, last) ← readHex4 cs
  if 0xdc00 ≤ n && n ≤ 0xdfff then faultAt .loneSurrogate last
  else if 0xd800 ≤ n && n ≤ 0xdbff then
    match last.tail with
    | '\\' :: 'u' :: rest =>
      let (m, last) ← readHex4 rest
      if 0xdc00 ≤ m && m ≤ 0xdfff then
        .ok (pairChar n m, last.tail)
      else faultAt .loneSurrogate last
    | '\\' :: [] | [] => faultAt .endInString []
    | '\\' :: rest => faultAt .unfinishedEscape rest
    | rest => faultAt .unfinishedEscape rest
  else .ok (Char.ofNat n, last.tail)

/-- The character behind a backslash. -/
def readEscape (cs : List Char) : Except Fault (Char × List Char) :=
  match cs with
  | [] => faultAt .endInString []
  | c :: rest =>
    if c = '"' || c = '\\' || c = '/' then .ok (c, rest)
    else if c = 'b' then .ok ('\x08', rest)
    else if c = 'f' then .ok ('\x0c', rest)
    else if c = 'n' then .ok ('\n', rest)
    else if c = 'r' then .ok ('\r', rest)
    else if c = 't' then .ok ('\t', rest)
    else if c = 'u' then readUnicode rest
    else faultAt .invalidEscape cs

/-- The characters of a string up to its closing quote. `fuel` bounds their number. -/
def readChars : Nat → List Char → Except Fault (List Char × List Char)
  | 0, cs => faultAt .endInString cs
  | fuel + 1, cs =>
    match cs with
    | [] => faultAt .endInString []
    | '"' :: rest => .ok ([], rest)
    | '\\' :: rest => do
      let (c, rest) ← readEscape rest
      let (s, rest) ← readChars fuel rest
      .ok (c :: s, rest)
    | c :: rest =>
      if c.toNat < 32 then faultAt .controlCharacter cs
      else (readChars fuel rest).map fun (s, rest) => (c :: s, rest)

/-- A string behind its opening quote. -/
def readString (cs : List Char) : Except Fault (String × List Char) :=
  (readChars (cs.length + 1) cs).map fun (s, rest) => (String.ofList s, rest)

/-! ## Values -/

/-- A key with the colon behind it. -/
def readKey (cs : List Char) : Except Fault (String × List Char) := do
  let (key, rest) ← readString cs
  match skipBlanks rest with
  | [] => faultAt .endInObject []
  | ':' :: rest => .ok (key, rest)
  | rest => faultAt .expectedColon rest

mutual

/-- A value. `depth` is how deep values that hold something may lie inside one another, and `fuel`
bounds the number of steps. -/
def readValue : Nat → Nat → List Char → Except Fault (Value × List Char)
  | 0, _, cs => faultAt .endInValue cs
  | fuel + 1, depth, cs =>
    match skipBlanks cs with
    | [] => faultAt .endInValue []
    | '"' :: rest => (readString rest).map fun (s, rest) => (.string s, rest)
    | '[' :: rest =>
      match skipBlanks rest with
      | [] => faultAt .endInList []
      | ']' :: rest => .ok (.array [], rest)
      | rest =>
        match depth with
        | 0 => faultAt .tooDeep rest
        | depth + 1 => (readItems fuel depth rest).map fun (vs, rest) => (.array vs, rest)
    | '\x7b' :: rest =>
      match skipBlanks rest with
      | [] => faultAt .endInObject []
      | '\x7d' :: rest => .ok (.object [], rest)
      | '"' :: rest => do
        let (key, rest) ← readKey rest
        match depth with
        | 0 => faultAt .tooDeep rest
        | depth + 1 =>
          let (fields, rest) ← readFields fuel depth key rest
          .ok (.object fields, rest)
      | rest => faultAt .keyNoString rest
    | 't' :: rest => readWord "rue" (.bool true) rest
    | 'f' :: rest => readWord "alse" (.bool false) rest
    | 'n' :: rest => readWord "ull" .null rest
    | 'N' :: rest => readWord "aN" (.real .notANumber) rest
    | '-' :: rest => readUnsigned true rest
    | c :: rest =>
      if isDigit c || c = 'I' then readUnsigned false (c :: rest)
      else faultAt .expectedValue (c :: rest)

/-- The items of an array, at least one, with the closing bracket. -/
def readItems : Nat → Nat → List Char → Except Fault (List Value × List Char)
  | 0, _, cs => faultAt .endInValue cs
  | fuel + 1, depth, cs => do
    let (v, rest) ← readValue fuel depth cs
    match skipBlanks rest with
    | [] => faultAt .endInList []
    | ']' :: rest => .ok ([v], rest)
    | ',' :: rest =>
      match skipBlanks rest with
      | [] => faultAt .endInValue []
      | ']' :: rest => faultAt .trailingComma (']' :: rest)
      | rest => do
        let (vs, rest) ← readItems fuel depth rest
        .ok (v :: vs, rest)
    | rest => faultAt .expectedListEnd rest

/-- The value of a key and the fields behind it, with the closing brace. -/
def readFields : Nat → Nat → String → List Char → Except Fault (List (String × Value) × List Char)
  | 0, _, _, cs => faultAt .endInValue cs
  | fuel + 1, depth, key, cs => do
    let (v, rest) ← readValue fuel depth cs
    match skipBlanks rest with
    | [] => faultAt .endInObject []
    | '\x7d' :: rest => .ok ([(key, v)], rest)
    | ',' :: rest =>
      match skipBlanks rest with
      | [] => faultAt .endInValue []
      | '"' :: rest => do
        let (next, rest) ← readKey rest
        let (fields, rest) ← readFields fuel depth next rest
        .ok ((key, v) :: fields, rest)
      | '\x7d' :: rest => faultAt .trailingComma ('\x7d' :: rest)
      | rest => faultAt .keyNoString rest
    | rest => faultAt .expectedObjectEnd rest

end

/-- How deep values may lie inside one another in a text that comes from outside. -/
def maxDepth : Nat := 200

/-- The value that a whole text is. -/
def parse (text : List Char) (depth : Nat := maxDepth) : Except Fault Value := do
  let (v, rest) ← readValue (2 * text.length + 2) depth text
  match skipBlanks rest with
  | [] => .ok v
  | rest => faultAt .trailingCharacters rest

end CustomElement.Json
