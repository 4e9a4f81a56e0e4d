-- SUMMARY: The arguments of a command, matched with the options and operands that it takes.
import CustomElement.Text.Case
import CustomElement.Text.Quoted

/-! ## Arguments

A command takes options, with a value or without, and an operand. Options may stand anywhere before
a double hyphen, their long names may be shortened as long as they stay unambiguous, and a value may
follow after an equals sign. All arguments are looked at for options first; then they are taken one
by one, and what fits nowhere is left over. -/

namespace CustomElement.Command

/-! ## What a command takes -/

/-- An option. -/
structure OptionSpec where
  names : List String
  /-- What the value is called, if there is one. -/
  value : Option String := none
  help : String
  deriving DecidableEq, Repr, Inhabited

/-- The name that an option is known by: the last, without its hyphens. -/
def OptionSpec.key (o : OptionSpec) : String :=
  String.ofList ((o.names.getLastD "").toList.dropWhile (· = '-'))

/-- What a command takes besides options. -/
inductive Operand where
  | nothing
  | value (name help : String)
  /-- The name of a command, with that command's arguments. -/
  | commands (names : List (String × String))
  deriving DecidableEq, Repr, Inhabited

/-- A command. -/
structure CommandSpec where
  name : String
  description : String := ""
  options : List OptionSpec
  operand : Operand := .nothing
  deriving DecidableEq, Repr, Inhabited

/-- The option that every command has. -/
def helpOption : OptionSpec where
  names := ["-h", "--help"]
  help := "show this help message and exit"

/-- Why a command is not run. -/
inductive Stop where
  /-- The help was wanted. -/
  | help (c : CommandSpec)
  | refused (c : CommandSpec) (message : String)
  deriving DecidableEq, Repr

namespace CommandSpec

/-- All names of options, with the options. -/
def optionNames (c : CommandSpec) : List (String × OptionSpec) :=
  c.options.flatMap fun o => o.names.map fun n => (n, o)

/-- A refusal. -/
def refuse {α : Type} (c : CommandSpec) (message : String) : Except Stop α :=
  .error (.refused c message)

/-- A refusal because of one option or operand. -/
def refuseAt {α : Type} (c : CommandSpec) (name message : String) : Except Stop α :=
  c.refuse ("argument " ++ name ++ ": " ++ message)

end CommandSpec

/-! ## Looking for options -/

/-- A value that is attached to the name of an option, and whether an equals sign stands between. -/
structure Attached where
  equals : Bool
  text : List Char
  deriving DecidableEq, Repr

/-- What an argument is. -/
inductive Token where
  | operand (arg : String)
  /-- The double hyphen. -/
  | separator
  /-- An option, if it is known, by the name that was given. -/
  | option (arg : String) (o : Option (String × OptionSpec)) (attached : Option Attached)
  deriving DecidableEq, Repr

/-- The argument of a token. -/
def Token.arg : Token → String
  | operand a | option a _ _ => a
  | separator => "--"

/-- What stands before the first equals sign and behind it. -/
def splitEquals (cs : List Char) : List Char × Option (List Char) :=
  let name := cs.takeWhile (· ≠ '=')
  match cs.drop name.length with
  | [] => (name, none)
  | _ :: rest => (name, some rest)

/-- Is it a negative number? One line feed may follow. -/
def isNegativeNumber : List Char → Bool
  | '-' :: cs =>
    let whole := cs.takeWhile Text.isDecimal
    match cs.drop whole.length with
    | [] | ['\n'] => !whole.isEmpty
    | '.' :: fraction =>
      let digits := fraction.takeWhile Text.isDecimal
      !digits.isEmpty && [[], ['\n']].contains (fraction.drop digits.length)
    | _ => false
  | _ => false

/-- The options that an argument may shorten, or that it begins with. -/
def candidates (c : CommandSpec) (cs : List Char) :
    List ((String × OptionSpec) × Option Attached) :=
  match cs with
  | '-' :: '-' :: _ =>
    let (name, attached) := splitEquals cs
    (c.optionNames.filter fun o => name.isPrefixOf o.1.toList).map fun o =>
      (o, attached.map (⟨true, ·⟩))
  | '-' :: letter :: rest =>
    c.optionNames.filterMap fun o =>
      if o.1.toList = ['-', letter] then some (o, some ⟨false, rest⟩)
      else if cs.isPrefixOf o.1.toList then some (o, none)
      else none
  | _ => []

/-- An argument before a double hyphen. -/
def tokenOf (c : CommandSpec) (arg : String) : Except Stop Token :=
  let cs := arg.toList
  let named (name : List Char) := c.optionNames.find? fun o => o.1.toList == name
  if cs.head? ≠ some '-' then .ok (.operand arg) else
  match named cs with
  | some o => .ok (.option arg (some o) none)
  | none =>
    if cs.length = 1 then .ok (.operand arg) else
    match splitEquals cs with
    | (name, some rest) =>
      match named name with
      | some o => .ok (.option arg (some o) (some ⟨true, rest⟩))
      | none => shortened cs
    | (_, none) => shortened cs
where
  /-- An argument that is not the name of an option. -/
  shortened (cs : List Char) : Except Stop Token :=
    match candidates c cs with
    | [(o, attached)] => .ok (.option arg (some o) attached)
    | [] =>
      if isNegativeNumber cs || cs.contains ' ' then .ok (.operand arg)
      else .ok (.option arg none none)
    | several =>
      c.refuse ("ambiguous option: " ++ arg ++ " could match " ++
        ", ".intercalate (several.map (·.1.1)))

/-- The tokens of arguments. -/
def tokens (c : CommandSpec) : List String → Except Stop (List Token)
  | [] => .ok []
  | arg :: rest =>
    if arg = "--" then .ok (.separator :: rest.map .operand)
    else do
      let t ← tokenOf c arg
      let ts ← tokens c rest
      return t :: ts

/-! ## Taking arguments -/

/-- What was taken: options with their values, the operand with all behind it, and the rest. -/
structure Taken where
  options : List (String × String) := []
  operand : Option (List String) := none
  extras : List String := []
  deriving DecidableEq, Repr, Inhabited

/-- The value of an option: the last one that was given. -/
def Taken.value? (t : Taken) (key : String) : Option String :=
  (t.options.reverse.find? fun o => o.1 == key).map Prod.snd

/-- Was an option given? -/
def Taken.has (t : Taken) (key : String) : Bool := (t.value? key).isSome

/-- Letters of options that follow one another behind a hyphen: where a letter asks for help it is
shown, and an unknown letter ends the search for more. -/
def readLetters (c : CommandSpec) (o : OptionSpec) (equals : Bool) : List Char → Except Stop Taken
  | [] => ignored []
  | letter :: rest =>
    if equals || letter = '-' then ignored (letter :: rest)
    else if o.names.contains (String.ofList ['-', letter]) then
      match rest with
      | [] => .error (.help c)
      | '=' :: rest => ignored rest
      | _ => readLetters c o false rest
    else .error (.help c)
where
  /-- The value of an option that has none. -/
  ignored (cs : List Char) : Except Stop Taken :=
    c.refuseAt ("/".intercalate o.names)
      ("ignored explicit argument " ++ Text.quoted (String.ofList cs))

/-- Take the value of an option. -/
def Taken.put (t : Taken) (o : OptionSpec) (value : String) : Taken :=
  { t with options := t.options ++ [(o.key, value)] }

/-- Leave an argument over. -/
def Taken.leave (t : Taken) (arg : String) : Taken := { t with extras := t.extras ++ [arg] }

/-- An option that came with an attached value. -/
def takeAttached (c : CommandSpec) (name : String) (o : OptionSpec) (a : Attached) (t : Taken) :
    Except Stop Taken :=
  if o.value.isSome then .ok (t.put o (String.ofList a.text))
  else if name.toList.take 2 = ['-', '-'] then
    c.refuseAt ("/".intercalate o.names)
      ("ignored explicit argument " ++ Text.quoted (String.ofList a.text))
  else readLetters c o a.equals a.text

/-- Take tokens, one after the other. -/
def take (c : CommandSpec) : List Token → Taken → Except Stop Taken
  | [], t => .ok t
  | .option arg none _ :: rest, t => take c rest (t.leave arg)
  | .option _ (some (name, o)) (some a) :: rest, t => do
    let t ← takeAttached c name o a t
    take c rest t
  | .option _ (some (_, o)) none :: rest, t =>
    if o.value.isSome then
      match rest with
      | .operand v :: more => take c more (t.put o v)
      | _ => c.refuseAt ("/".intercalate o.names) "expected one argument"
    else if o.names = helpOption.names then .error (.help c)
    else take c rest (t.put o "")
  | .operand v :: rest, t =>
    match c.operand, t.operand with
    | .commands _, none => .ok { t with operand := some (v :: rest.map Token.arg) }
    | .value _ _, none =>
      match rest with
      | .separator :: more => take c more { t with operand := some [v] }
      | more => take c more { t with operand := some [v] }
    | _, _ => take c rest (t.leave v)
  | .separator :: rest, t =>
    match rest with
    | [] => .ok (t.leave "--")
    | next :: more =>
      match c.operand, t.operand with
      | .commands _, none => .ok { t with operand := some ("--" :: rest.map Token.arg) }
      | .value _ _, none => take c more { t with operand := some [next.arg] }
      | _, _ => take c (next :: more) (t.leave "--")
termination_by ts => ts.length

/-- What a command takes of its arguments. An operand that has a value must be given. -/
def matchArguments (c : CommandSpec) (args : List String) : Except Stop Taken := do
  let t ← take c (← tokens c args) {}
  match c.operand, t.operand with
  | .value name _, none => c.refuse ("the following arguments are required: " ++ name)
  | _, _ => return t

end CustomElement.Command
