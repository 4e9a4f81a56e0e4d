-- SUMMARY: An expression without raw text is read back from its text, so no two share one.
import CustomElement.Proofs.Syntax.Literal
import CustomElement.Syntax.Printer

/-! ## Expressions that are read back

A reader takes one word, literal or mark after the other and keeps on a stack what is still open. It
needs no precedence and no look at what follows: what is printed of an operand is complete before a
dot or an argument list, and every list says where it ends. Read from its text, an expression is the
one that was printed, but for the places that it was read from. -/

namespace CustomElement.Syntax

/-! ## Expressions up to their spans -/

mutual

/-- The expression without the places that it was read from. -/
def Expression.bare : Expression → Expression
  | .identifier id => .named id.name
  | .stringLiteral _ value => .stringLiteral none value
  | .self _ => .self none
  | .raw _ code => .raw none code
  | .object _ properties => .object none (bareProperties properties)
  | .member _ object property => .member none object.bare { name := property.name }
  | .call _ callee arguments => .call none callee.bare (bareExpressions arguments)

/-- The property without the places that it was read from. -/
def Property.bare : Property → Property
  | .mk _ key value => .mk none { name := key.name } value.bare

/-- The expressions without the places that they were read from. -/
def bareExpressions : List Expression → List Expression
  | [] => []
  | e :: es => e.bare :: bareExpressions es

/-- The properties without the places that they were read from. -/
def bareProperties : List Property → List Property
  | [] => []
  | p :: ps => p.bare :: bareProperties ps

end

theorem isLoose_bare (e : Expression) : e.bare.isLoose = e.isLoose := by
  cases e <;> simp [Expression.bare, Expression.named, Expression.isLoose]

mutual

/-- Where an expression was read does not show in its text. -/
theorem print_bare : ∀ e : Expression, e.bare.print = e.print
  | .identifier _ => by simp [Expression.bare, Expression.named, Expression.print]
  | .stringLiteral _ _ => by simp [Expression.bare, Expression.print]
  | .self _ => by simp [Expression.bare, Expression.print]
  | .raw _ _ => by simp [Expression.bare, Expression.print]
  | .object _ [] => by simp [Expression.bare, bareProperties, Expression.print]
  | .object _ (p :: ps) => by
    simp [Expression.bare, bareProperties, Expression.print, print_bareProperty p,
      print_bareProperties ps]
  | .member _ object _ => by
    simp [Expression.bare, Expression.print, isLoose_bare, print_bare object]
  | .call _ callee arguments => by
    simp [Expression.bare, Expression.print, isLoose_bare, print_bare callee,
      print_bareExpressions arguments]

theorem print_bareProperty : ∀ p : Property, p.bare.print = p.print
  | .mk _ _ value => by simp [Property.bare, Property.print, print_bare value]

theorem print_bareExpressions :
    ∀ es : List Expression, printExpressions (bareExpressions es) = printExpressions es
  | [] => rfl
  | e :: es => by
    simp [bareExpressions, printExpressions, print_bare e, print_bareExpressions es]

theorem print_bareProperties :
    ∀ ps : List Property, printProperties (bareProperties ps) = printProperties ps
  | [] => rfl
  | p :: ps => by
    simp [bareProperties, printProperties, print_bareProperty p, print_bareProperties ps]

end

/-! ## Plain expressions -/

/-- May the character stand in a name? -/
def isWordChar (c : Char) : Bool := c.isAlphanum || c = '_' || c = '$'

/-- A name of letters, digits, underscores and dollar signs. -/
structure IsWord (name : String) : Prop where
  ne_empty : name ≠ ""
  isWordChar : name.toList.all isWordChar = true

mutual

/-- An expression without raw text whose names are words. The word `this` names nothing. -/
def Expression.IsPlain : Expression → Prop
  | .identifier id => IsWord id.name ∧ id.name ≠ "this"
  | .stringLiteral .. => True
  | .self _ => True
  | .raw .. => False
  | .object _ properties => ArePlainProperties properties
  | .member _ object property => object.IsPlain ∧ IsWord property.name
  | .call _ callee arguments => callee.IsPlain ∧ ArePlain arguments

/-- A property with a word for its key and such an expression for its value. -/
def Property.IsPlain : Property → Prop
  | .mk _ key value => IsWord key.name ∧ value.IsPlain

/-- Such expressions. -/
def ArePlain : List Expression → Prop
  | [] => True
  | e :: es => e.IsPlain ∧ ArePlain es

/-- Such properties. -/
def ArePlainProperties : List Property → Prop
  | [] => True
  | p :: ps => p.IsPlain ∧ ArePlainProperties ps

end

/-! ## Words, literals and marks -/

/-- What a text is made of, but for blanks. -/
inductive Token where
  | word (name : String)
  | text (value : String)
  | openRound | closeRound | openBrace | closeBrace
  | comma | colon | dot
  deriving DecidableEq, Repr

/-- The mark that a character is. -/
def markOf? (c : Char) : Option Token :=
  if c = '(' then some .openRound
  else if c = ')' then some .closeRound
  else if c = '\x7b' then some .openBrace
  else if c = '\x7d' then some .closeBrace
  else if c = ',' then some .comma
  else if c = ':' then some .colon
  else if c = '.' then some .dot
  else none

/-- The token that begins with a character, and the text behind it. -/
def tokenAt (c : Char) (cs : List Char) : Option (Token × List Char) :=
  if c = '"' then (readLiteralTail cs).map fun (value, rest) => (.text value, rest)
  else if isWordChar c then
    some (.word (String.ofList (c :: cs.takeWhile isWordChar)), cs.dropWhile isWordChar)
  else (markOf? c).map fun t => (t, cs)

theorem length_le_of_tokenAt {c : Char} {cs rest : List Char} {t : Token}
    (h : tokenAt c cs = some (t, rest)) : rest.length ≤ cs.length := by
  unfold tokenAt at h
  split_ifs at h
  · obtain ⟨⟨value, last⟩, hread, hlast⟩ := Option.map_eq_some_iff.mp h
    obtain ⟨-, rfl⟩ := Prod.mk.inj hlast
    obtain ⟨⟨units, tail⟩, hunits, hvalue⟩ := Option.bind_eq_some_iff.mp hread
    obtain ⟨chars, -, hchars⟩ := Option.bind_eq_some_iff.mp hvalue
    cases hchars
    exact Nat.le_of_lt (length_lt_of_readUnits hunits)
  · cases h
    exact (List.dropWhile_suffix _).length_le
  · obtain ⟨mark, -, hmark⟩ := Option.map_eq_some_iff.mp h
    cases hmark
    exact Nat.le_refl _

/-! ## The reader -/

/-- What is open around the place where a reader stands. -/
inductive Frame where
  | parentheses
  /-- The arguments of a call, with those that were read. -/
  | arguments (callee : Expression) (before : List Expression)
  /-- The value of a key in an object, with the properties that were read. -/
  | value (before : List Property) (key : Identifier)

/-- Where a reader stands. -/
inductive ReaderState where
  /-- Where an expression begins. -/
  | start (stack : List Frame)
  /-- Behind an expression, which may go on. -/
  | behind (e : Expression) (stack : List Frame)
  /-- Behind the dot of a member. -/
  | memberName (object : Expression) (stack : List Frame)
  /-- Where a key of an object begins. -/
  | key (before : List Property) (stack : List Frame)
  /-- Behind a key. -/
  | colon (before : List Property) (key : Identifier) (stack : List Frame)

/-- A token where an expression begins. Arguments may end before the first one. -/
def startStep (stack : List Frame) : Token → Option ReaderState
  | .word name => some (.behind (if name = "this" then .self none else .named name) stack)
  | .text value => some (.behind (.stringLiteral none value) stack)
  | .openBrace => some (.key [] stack)
  | .openRound => some (.start (.parentheses :: stack))
  | .closeRound =>
    match stack with
    | .arguments callee [] :: stack => some (.behind (.call none callee []) stack)
    | _ => none
  | _ => none

/-- A token behind an expression. -/
def behindStep (e : Expression) (stack : List Frame) : Token → Option ReaderState
  | .dot => some (.memberName e stack)
  | .openRound => some (.start (.arguments e [] :: stack))
  | .closeRound =>
    match stack with
    | .parentheses :: stack => some (.behind e stack)
    | .arguments callee before :: stack =>
      some (.behind (.call none callee (before ++ [e])) stack)
    | _ => none
  | .comma =>
    match stack with
    | .arguments callee before :: stack =>
      some (.start (.arguments callee (before ++ [e]) :: stack))
    | .value before key :: stack => some (.key (before ++ [.mk none key e]) stack)
    | _ => none
  | .closeBrace =>
    match stack with
    | .value before key :: stack =>
      some (.behind (.object none (before ++ [.mk none key e])) stack)
    | _ => none
  | _ => none

/-- A token where a key begins. An object may end before the first one. -/
def keyStep (before : List Property) (stack : List Frame) : Token → Option ReaderState
  | .word name => some (.colon before { name } stack)
  | .closeBrace =>
    match before with
    | [] => some (.behind (.object none []) stack)
    | _ => none
  | _ => none

/-- Where a token leads. -/
def ReaderState.step : ReaderState → Token → Option ReaderState
  | start stack, t => startStep stack t
  | behind e stack, t => behindStep e stack t
  | memberName object stack, .word name => some (.behind (.member none object { name }) stack)
  | key before stack, t => keyStep before stack t
  | colon before id stack, .colon => some (.start (.value before id :: stack))
  | _, _ => none

/-- Where a text leads. -/
def ReaderState.run (state : ReaderState) (cs : List Char) : Option ReaderState :=
  match cs with
  | [] => some state
  | c :: cs =>
    if c = ' ' then run state cs
    else match _h : tokenAt c cs with
      | none => none
      | some (t, rest) =>
        match state.step t with
        | none => none
        | some next => run next rest
  termination_by cs.length
  decreasing_by
  · exact Nat.lt_succ_self _
  · exact Nat.lt_succ_of_le (length_le_of_tokenAt _h)

/-- The expression that a text is. -/
def Expression.read? (code : String) : Option Expression :=
  match (ReaderState.start []).run code.toList with
  | some (.behind e []) => some e
  | _ => none

/-! ## What the reader does with one token -/

namespace ReaderState

variable {state next : ReaderState} {rest : List Char}

theorem run_nil (state : ReaderState) : state.run [] = some state := by rw [run]

theorem run_blank (state : ReaderState) (rest : List Char) :
    state.run (' ' :: rest) = state.run rest := by
  rw [run, if_pos rfl]

theorem run_token {c : Char} {cs : List Char} {t : Token} (hc : c ≠ ' ')
    (htoken : tokenAt c cs = some (t, rest)) (hstep : state.step t = some next) :
    state.run (c :: cs) = next.run rest := by
  rw [run, if_neg hc]
  split
  · next h => cases htoken.symm.trans h
  · next t' rest' h =>
    cases htoken.symm.trans h
    simp only [hstep]

/-- No mark may stand in a name. -/
theorem isWordChar_of_markOf? {c : Char} {t : Token} (hmark : markOf? c = some t) :
    isWordChar c = false := by
  unfold markOf? at hmark
  split_ifs at hmark <;> (subst_vars; decide)

/-- A mark is taken by itself. -/
theorem run_mark {c : Char} {t : Token} (hmark : markOf? c = some t)
    (hstep : state.step t = some next) : state.run (c :: rest) = next.run rest := by
  have hquote : c ≠ '"' := by rintro rfl; cases hmark
  have hblank : c ≠ ' ' := by rintro rfl; cases hmark
  refine run_token hblank ?_ hstep
  simp [tokenAt, hquote, isWordChar_of_markOf? hmark, hmark]

/-- The text goes on with something else than a character of a name. -/
def EndsWord (rest : List Char) : Prop := ∀ c ∈ rest.head?, isWordChar c = false

/-- A name is taken as a whole. -/
theorem run_word {name : String} (hname : IsWord name) (hrest : EndsWord rest)
    (hstep : state.step (.word name) = some next) :
    state.run (name.toList ++ rest) = next.run rest := by
  obtain ⟨hempty, hchars⟩ := hname
  cases hcs : name.toList with
  | nil => exact absurd (String.toList_eq_nil_iff.mp hcs) hempty
  | cons c cs =>
    rw [hcs] at hchars
    obtain ⟨hc, hcs'⟩ : isWordChar c = true ∧ ∀ d ∈ cs, isWordChar d = true := by
      simpa using hchars
    have hquote : c ≠ '"' := by rintro rfl; cases hc
    have hblank : c ≠ ' ' := by rintro rfl; cases hc
    have hstop : rest.takeWhile isWordChar = [] ∧ rest.dropWhile isWordChar = rest := by
      cases rest with
      | nil => exact ⟨rfl, rfl⟩
      | cons d rest => simp [hrest d rfl]
    have htake : (cs ++ rest).takeWhile isWordChar = cs := by
      rw [List.takeWhile_append_of_pos hcs', hstop.1, List.append_nil]
    have hdrop : (cs ++ rest).dropWhile isWordChar = rest := by
      rw [List.dropWhile_append_of_pos hcs', hstop.2]
    have htoken : tokenAt c (cs ++ rest) = some (.word name, rest) := by
      rw [tokenAt, if_neg hquote, if_pos hc, htake, hdrop, ← hcs, String.ofList_toList]
    exact run_token hblank htoken hstep

/-- A literal is taken as a whole. -/
theorem run_literal {value : String} (hstep : state.step (.text value) = some next) :
    state.run ((stringLiteral value).toList ++ rest) = next.run rest := by
  have hliteral : (stringLiteral value).toList ++ rest =
      '"' :: ((escape value).toList ++ '"' :: rest) := by
    simp [stringLiteral]
  have htoken : tokenAt '"' ((escape value).toList ++ '"' :: rest) = some (.text value, rest) := by
    rw [tokenAt, if_pos rfl, readLiteralTail_escape]
    rfl
  rw [hliteral]
  exact run_token (by decide) htoken hstep

/-! ## What the reader does with an expression -/

/-- An expression that is read wherever one may begin. -/
def Reads (code : String) (e : Expression) : Prop :=
  ∀ stack rest, EndsWord rest →
    run (.start stack) (code.toList ++ rest) = run (.behind e stack) rest

theorem endsWord_mark {c : Char} {t : Token} (hmark : markOf? c = some t) (rest : List Char) :
    EndsWord (c :: rest) := by
  rintro d hd
  cases hd
  exact isWordChar_of_markOf? hmark

/-- An operand is read with the parentheses around it. -/
theorem reads_operand {code : String} {e : Expression} (h : Reads code e) (loose : Bool) :
    Reads (operand loose code) e := by
  intro stack rest hrest
  unfold operand
  split_ifs
  · have hcode : ("(" ++ code ++ ")").toList ++ rest = '(' :: (code.toList ++ ')' :: rest) := by
      simp
    have hopen : (start stack).step .openRound = some (.start (.parentheses :: stack)) := rfl
    have hclose : (behind e (.parentheses :: stack)).step .closeRound =
        some (.behind e stack) := rfl
    rw [hcode, run_mark rfl hopen, h _ _ (endsWord_mark rfl rest), run_mark rfl hclose]
  · exact h stack rest hrest

mutual

/-- A plain expression is read from its text. -/
theorem reads_print : ∀ e : Expression, e.IsPlain → Reads e.print e.bare
  | .identifier id, h => by
    intro stack rest hrest
    have hstep : (start stack).step (.word id.name) = some (.behind (.named id.name) stack) := by
      simp [step, startStep, h.2]
    rw [Expression.print, run_word h.1 hrest hstep, Expression.bare]
  | .stringLiteral _ value, _ => by
    intro stack rest _
    rw [Expression.print, run_literal rfl, Expression.bare]
  | .self _, _ => by
    intro stack rest hrest
    have hthis : IsWord "this" := ⟨by decide, by decide⟩
    rw [Expression.print, run_word hthis hrest rfl, Expression.bare]
    rfl
  | .raw _ _, h => h.elim
  | .object _ [], _ => by
    intro stack rest _
    have hcode : ("\x7b\x7d" : String).toList ++ rest = '\x7b' :: '\x7d' :: rest := rfl
    have hopen : (start stack).step .openBrace = some (.key [] stack) := rfl
    have hclose : (key [] stack).step .closeBrace = some (.behind (.object none []) stack) := rfl
    rw [Expression.print, hcode, run_mark rfl hopen, run_mark rfl hclose, Expression.bare,
      bareProperties]
  | .object _ (p :: ps), h => by
    intro stack rest _
    have hps := run_properties (p :: ps) h (by simp) [] stack rest
    have hcode : ("\x7b " ++ ", ".intercalate (p.print :: printProperties ps) ++ " \x7d").toList ++
        rest = '\x7b' :: ' ' :: ((", ".intercalate (printProperties (p :: ps))).toList ++
          ' ' :: '\x7d' :: rest) := by
      simp [printProperties]
    have hopen : (start stack).step .openBrace = some (.key [] stack) := rfl
    rw [Expression.print, hcode, run_mark rfl hopen, run_blank, hps,
      List.nil_append, Expression.bare]
  | .member _ object property, h => by
    intro stack rest hrest
    have hcode : (operand object.isLoose object.print ++ "." ++ property.name).toList ++ rest =
        (operand object.isLoose object.print).toList ++ '.' :: (property.name.toList ++ rest) := by
      simp
    have hdot : (behind object.bare stack).step .dot = some (.memberName object.bare stack) := rfl
    have hobject := reads_operand (reads_print object h.1) object.isLoose
    rw [Expression.print, hcode, hobject _ _ (endsWord_mark rfl _), run_mark rfl hdot,
      run_word h.2 hrest rfl, Expression.bare]
  | .call _ callee arguments, h => by
    intro stack rest _
    have hcode : (operand callee.isLoose callee.print ++ "(" ++
        ", ".intercalate (printExpressions arguments) ++ ")").toList ++ rest =
        (operand callee.isLoose callee.print).toList ++
          '(' :: ((", ".intercalate (printExpressions arguments)).toList ++ ')' :: rest) := by
      simp
    have hopen : (behind callee.bare stack).step .openRound =
        some (.start (.arguments callee.bare [] :: stack)) := rfl
    have hcallee := reads_operand (reads_print callee h.1) callee.isLoose
    rw [Expression.print, hcode, hcallee _ _ (endsWord_mark rfl _), run_mark rfl hopen,
      Expression.bare]
    rcases eq_or_ne arguments [] with rfl | hne
    · have hclose : (start (.arguments callee.bare [] :: stack)).step .closeRound =
          some (.behind (.call none callee.bare []) stack) := rfl
      exact run_mark rfl hclose
    · exact run_arguments arguments h.2 hne callee.bare [] stack rest

/-- A property is read from its text, as the expression that is its value. -/
theorem run_property : ∀ p : Property, p.IsPlain →
    ∃ id e, p.bare = .mk none id e ∧ ∀ before stack rest, EndsWord rest →
      run (.key before stack) (p.print.toList ++ rest) =
        run (.behind e (.value before id :: stack)) rest
  | .mk _ id value, h => by
    refine ⟨{ name := id.name }, value.bare, Property.bare.eq_1 .., ?_⟩
    intro before stack rest hrest
    have hcode : (id.name ++ ": " ++ value.print).toList ++ rest =
        id.name.toList ++ ':' :: ' ' :: (value.print.toList ++ rest) := by
      simp
    have hcolon : (ReaderState.colon before { name := id.name } stack).step .colon =
        some (.start (.value before { name := id.name } :: stack)) := rfl
    rw [Property.print, hcode, run_word h.1 (endsWord_mark rfl _) rfl, run_mark rfl hcolon,
      run_blank, reads_print value h.2 _ _ hrest]

/-- Arguments are read up to the end of their list. -/
theorem run_arguments : ∀ es : List Expression, ArePlain es → es ≠ [] →
    ∀ callee before stack rest, run (.start (.arguments callee before :: stack))
        ((", ".intercalate (printExpressions es)).toList ++ ')' :: rest) =
      run (.behind (.call none callee (before ++ bareExpressions es)) stack) rest
  | [], _, hne => absurd rfl hne
  | [e], h, _ => by
    intro callee before stack rest
    have hclose : (behind e.bare (.arguments callee before :: stack)).step .closeRound =
        some (.behind (.call none callee (before ++ [e.bare])) stack) := rfl
    rw [printExpressions, printExpressions, String.intercalate_singleton,
      reads_print e h.1 _ _ (endsWord_mark rfl rest), run_mark rfl hclose, bareExpressions,
      bareExpressions]
  | e :: e' :: es, h, _ => by
    intro callee before stack rest
    have hcode : (", ".intercalate (printExpressions (e :: e' :: es))).toList ++ ')' :: rest =
        e.print.toList ++ ',' :: ' ' ::
          ((", ".intercalate (printExpressions (e' :: es))).toList ++ ')' :: rest) := by
      simp [printExpressions, String.intercalate_cons_cons]
    have hcomma : (behind e.bare (.arguments callee before :: stack)).step .comma =
        some (.start (.arguments callee (before ++ [e.bare]) :: stack)) := rfl
    rw [hcode, reads_print e h.1 _ _ (endsWord_mark rfl _), run_mark rfl hcomma, run_blank,
      run_arguments (e' :: es) h.2 (by simp), List.append_assoc, List.singleton_append,
      ← bareExpressions]

/-- Properties are read up to the end of their object. -/
theorem run_properties : ∀ ps : List Property, ArePlainProperties ps → ps ≠ [] →
    ∀ before stack rest, run (.key before stack)
        ((", ".intercalate (printProperties ps)).toList ++ ' ' :: '\x7d' :: rest) =
      run (.behind (.object none (before ++ bareProperties ps)) stack) rest
  | [], _, hne => absurd rfl hne
  | [p], h, _ => by
    intro before stack rest
    have hblank : EndsWord (' ' :: '\x7d' :: rest) := by rintro _ ⟨⟩; rfl
    obtain ⟨id, e, hbare, hrun⟩ := run_property p h.1
    have hclose : (behind e (.value before id :: stack)).step .closeBrace =
        some (.behind (.object none (before ++ [.mk none id e])) stack) := rfl
    rw [printProperties, printProperties, String.intercalate_singleton, hrun _ _ _ hblank,
      run_blank, run_mark rfl hclose, bareProperties, bareProperties, hbare]
  | p :: p' :: ps, h, _ => by
    intro before stack rest
    have hcode : (", ".intercalate (printProperties (p :: p' :: ps))).toList ++
        ' ' :: '\x7d' :: rest = p.print.toList ++ ',' :: ' ' ::
          ((", ".intercalate (printProperties (p' :: ps))).toList ++ ' ' :: '\x7d' :: rest) := by
      simp [printProperties, String.intercalate_cons_cons]
    obtain ⟨id, e, hbare, hrun⟩ := run_property p h.1
    have hcomma : (behind e (.value before id :: stack)).step .comma =
        some (.key (before ++ [.mk none id e]) stack) := rfl
    rw [hcode, hrun _ _ _ (endsWord_mark rfl _), run_mark rfl hcomma, run_blank,
      run_properties (p' :: ps) h.2 (by simp), ← hbare, List.append_assoc, List.singleton_append,
      ← bareProperties]

end

end ReaderState

/-! ## Texts of expressions -/

/-- A plain expression is read back from its text. -/
theorem read?_print {e : Expression} (h : e.IsPlain) : Expression.read? e.print = some e.bare := by
  have hrun : (ReaderState.start []).run e.print.toList = some (.behind e.bare []) := by
    have hreads := ReaderState.reads_print e h [] [] (by simp [ReaderState.EndsWord])
    rwa [List.append_nil, ReaderState.run_nil] at hreads
  rw [Expression.read?, hrun]

/-- A text tells which plain expression it was printed from: it is read back as that expression, and
two of them have one text exactly if they are the same up to the places that they were read from. -/
theorem print_eq_iff_bare_eq {e e' : Expression} (h : e.IsPlain) (h' : e'.IsPlain) :
    Expression.read? e.print = some e.bare ∧ (e.print = e'.print ↔ e.bare = e'.bare) := by
  refine ⟨read?_print h, fun hprint => ?_, fun hbare => ?_⟩
  · have hread := read?_print h
    rw [hprint, read?_print h'] at hread
    exact (Option.some.inj hread).symm
  · rw [← print_bare e, hbare, print_bare e']

/-- A call with an object for its callee, whose parts were all read at one place. -/
def nestedCall (span : Option Span) : Expression :=
  .call span (.member span
      (.object span [.mk span { span, name := "mode" } (.stringLiteral span "), \"\x7b"),
        .mk span { span, name := "$0" } (.object span [])]) { span, name := "this" })
    [.self span, .call span (.identifier { span, name := "_n" }) []]

theorem isPlain_nestedCall (span : Option Span) : (nestedCall span).IsPlain := by
  have hmode : IsWord "mode" := ⟨by decide, by decide⟩
  have hdollar : IsWord "$0" := ⟨by decide, by decide⟩
  have hthis : IsWord "this" := ⟨by decide, by decide⟩
  have hn : IsWord "_n" ∧ "_n" ≠ "this" := ⟨⟨by decide, by decide⟩, by decide⟩
  exact ⟨⟨⟨⟨hmode, trivial⟩, ⟨hdollar, trivial⟩, trivial⟩, hthis⟩, trivial, ⟨hn, trivial⟩, trivial⟩

theorem print_eq_iff_bare_eq_nestedCall :
    (nestedCall none).IsPlain ∧ (nestedCall (some ⟨3, 9, 1, 4⟩)).IsPlain ∧
      Expression.read? (nestedCall none).print = some (nestedCall none).bare ∧
      ((nestedCall none).print = (nestedCall (some ⟨3, 9, 1, 4⟩)).print ↔
        (nestedCall none).bare = (nestedCall (some ⟨3, 9, 1, 4⟩)).bare) :=
  ⟨isPlain_nestedCall _, isPlain_nestedCall _,
    print_eq_iff_bare_eq (isPlain_nestedCall none) (isPlain_nestedCall (some ⟨3, 9, 1, 4⟩))⟩

end CustomElement.Syntax
