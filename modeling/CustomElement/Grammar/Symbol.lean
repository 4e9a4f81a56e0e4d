-- SUMMARY: The vocabulary of the module grammar: terminals, phrases, roles and their names.

/-! ## The vocabulary of the grammar

A module is written in JavaScript with type annotations and JSX. Its terminals are fixed texts,
classes of texts (`Lexeme`), and tokens that depend on line breaks or on the surrounding
construct (`Layout`). Its phrases are the constructs that the rules define. -/

namespace CustomElement.Grammar

/-! ## Terminals -/

/-- A class of texts that one token may have. -/
inductive Lexeme where
  | hashBang | identifier | number | characterReference | jsxIdentifier | doubleJsxText
  | singleJsxText | privateIdentifier | doubleQuotedText | singleQuotedText | escape | regexPattern
  | regexEnd | regexFlags | comment
  deriving DecidableEq, Repr, Inhabited, Hashable

/-- A token whose presence depends on more than its own text: a statement end that a line break
stands for, the text of a template or of a JSX element, the `?` of a conditional. -/
inductive Layout where
  | semicolon | templateText | conditionalMark | htmlComment | jsxText | signatureSemicolon
  deriving DecidableEq, Repr, Inhabited, Hashable

/-- What the leaves of a syntax tree stand for. -/
inductive Terminal where
  | endOfInput
  | text (spelling : String)
  | lexeme (class_ : Lexeme)
  | layout (kind : Layout)
  deriving DecidableEq, Repr, Inhabited, Hashable

/-- All terminals. When a token has to be supplied, the earliest that fits is taken. -/
def Terminal.all : List Terminal :=
  [.endOfInput, .lexeme .identifier, .lexeme .hashBang, .text "export", .text "*",
   .text "default", .text "type", .text "import", .text "=", .text "as", .text "namespace",
   .text "\x7b", .text ",", .text "\x7d", .text "typeof", .text "from", .text "with",
   .text "var", .text "let", .text "const", .text "!", .text "else", .text "if", .text "switch",
   .text "for", .text "(", .text ";", .text ")", .text "await", .text "in", .text "of",
   .text "while", .text "do", .text "try", .text "break", .text "continue", .text "debugger",
   .text "return", .text "throw", .text ":", .text "case", .text "catch", .text "finally",
   .text "yield", .text "[", .text "]", .lexeme .characterReference, .text ">",
   .lexeme .jsxIdentifier, .text ".", .text "</", .text "/>", .text "\"", .text "'",
   .lexeme .doubleJsxText, .lexeme .singleJsxText, .text "class", .text "async",
   .text "function", .text "=>", .text "?.", .text "new", .text "using", .text "+=", .text "-=",
   .text "*=", .text "/=", .text "%=", .text "^=", .text "&=", .text "|=", .text ">>=",
   .text ">>>=", .text "<<=", .text "**=", .text "&&=", .text "||=", .text "??=", .text "...",
   .text "&&", .text "||", .text ">>", .text ">>>", .text "<<", .text "&", .text "^", .text "|",
   .text "+", .text "-", .text "/", .text "%", .text "**", .text "<", .text "<=", .text "==",
   .text "===", .text "!=", .text "!==", .text ">=", .text "??", .text "instanceof", .text "~",
   .text "void", .text "delete", .text "++", .text "--", .lexeme .doubleQuotedText,
   .lexeme .singleQuotedText, .lexeme .escape, .lexeme .comment, .text "`", .text "$\x7b",
   .lexeme .regexEnd, .lexeme .regexPattern, .lexeme .regexFlags, .lexeme .number,
   .lexeme .privateIdentifier, .text "target", .text "meta", .text "this", .text "super",
   .text "true", .text "false", .text "null", .text "undefined", .text "@", .text "static",
   .text "readonly", .text "get", .text "set", .text "?", .text "declare", .text "public",
   .text "private", .text "protected", .text "override", .text "module", .text "any",
   .text "number", .text "boolean", .text "string", .text "symbol", .text "object",
   .text "abstract", .text "accessor", .text "satisfies", .text "require", .text "extends",
   .text "implements", .text "global", .text "interface", .text "enum", .text "-?:", .text "+?:",
   .text "?:", .text "asserts", .text "infer", .text "is", .text "keyof", .text "unique",
   .text "unknown", .text "never", .text "\x7b|", .text "|\x7d", .layout .semicolon,
   .layout .templateText, .layout .conditionalMark, .layout .htmlComment, .layout .jsxText,
   .layout .signatureSemicolon]

/-- The name of a lexeme in a message about a missing token. -/
def Lexeme.name : Lexeme → String
  | .hashBang => "hash_bang_line"
  | .identifier => "identifier"
  | .number => "number"
  | .characterReference => "html_character_reference"
  | .jsxIdentifier => "jsx_identifier"
  | .doubleJsxText => "unescaped_double_jsx_string_fragment"
  | .singleJsxText => "unescaped_single_jsx_string_fragment"
  | .privateIdentifier => "private_property_identifier"
  | .doubleQuotedText => "unescaped_double_string_fragment"
  | .singleQuotedText => "unescaped_single_string_fragment"
  | .escape => "escape_sequence"
  | .regexPattern => "regex_pattern"
  | .regexEnd => "/"
  | .regexFlags => "regex_flags"
  | .comment => "comment"

/-- Line-end tokens and template text leave no node of their own. -/
def Layout.name? : Layout → Option String
  | .htmlComment => some "html_comment"
  | .jsxText => some "jsx_text"
  | _ => none

/-- The name of a terminal's node, for the terminals that have one. -/
def Terminal.name? : Terminal → Option String
  | .endOfInput => none
  | .text spelling => some spelling
  | .lexeme class_ => some class_.name
  | .layout kind => kind.name?

/-- A terminal with a meaning of its own, against one that only marks its surroundings. -/
def Terminal.isNamed : Terminal → Bool
  | .text spelling => ["this", "super", "true", "false", "null", "undefined"].contains spelling
  | .lexeme class_ => class_ != .regexEnd
  | .layout kind => kind.name?.isSome
  | .endOfInput => false

/-! ## Phrases -/

/-- The constructs of the grammar, in the order in which alternatives are compared. -/
inductive Phrase where
  | program | exportStatement | namespaceExport | exportClause | exportSpecifier
  | moduleExportName | declaration | importKeyword | importStatement | importClause | fromClause
  | namespaceImport | namedImports | importSpecifier | importAttribute | statement
  | expressionStatement | variableDeclaration | lexicalDeclaration | variableDeclarator
  | statementBlock | elseClause | ifStatement | switchStatement | forStatement | forInStatement
  | forHeader | whileStatement | doStatement | tryStatement | withStatement | breakStatement
  | continueStatement | debuggerStatement | returnStatement | throwStatement | emptyStatement
  | labeledStatement | switchBody | switchCase | switchDefault | catchClause | finallyClause
  | parenthesizedExpression | expressions | expression | primaryExpression | yieldExpression
  | objectLiteral | objectPattern | assignmentPattern | objectAssignmentPattern | arrayLiteral
  | arrayPattern | jsxNode | jsxElement | jsxExpression | jsxChild | jsxOpeningElement | jsxName
  | nestedIdentifier | jsxNamespaceName | jsxElementName | jsxClosingElement
  | jsxSelfClosingElement | jsxAttributeOrSpread | jsxAttributeName | jsxAttribute | jsxString
  | jsxAttributeValue | classExpression | classDeclaration | classHeritage | functionExpression
  | functionDeclaration | generatorFunction | generatorFunctionDeclaration | arrowFunction
  | callSignature | formalParameter | optionalChain | callExpression | newExpression
  | awaitExpression | memberExpression | subscriptExpression | lhsExpression
  | assignmentExpression | augmentedAssignmentLhs | augmentedAssignmentExpression | initializer
  | destructuringPattern | spreadElement | ternaryExpression | binaryExpression | unaryExpression
  | updateExpression | sequenceExpression | stringLiteral | templateString | templateSubstitution
  | regexLiteral | nameOrUndefined | metaProperty | callArguments | decorator
  | decoratorMemberExpression | decoratorCallExpression | classBody | formalParameters
  | classStaticBlock | bindingPattern | restPattern | methodDefinition | objectPair | pairPattern
  | propertyName | computedPropertyName | reservedIdentifier | semicolon | publicFieldDefinition
  | jsxStartOpeningElement | importIdentifier | nonNullExpression | methodSignature
  | abstractMethodSignature | functionSignature | decoratorParenthesizedExpression | asExpression
  | satisfiesExpression | instantiationExpression | importRequireClause | extendsClause
  | extendsClauseSingle | implementsClause | ambientDeclaration | abstractClassDeclaration
  | moduleDeclaration | internalModule | moduleTail | importAlias | nestedTypeIdentifier
  | interfaceDeclaration | extendsTypeClause | enumDeclaration | enumBody | enumAssignment
  | typeAliasDeclaration | accessibilityModifier | overrideModifier | requiredParameter
  | optionalParameter | parameterName | omittingTypeAscription | addingTypeAscription
  | optingTypeAscription | typeAscription | typeQueryMemberExpressionInTypeAscription
  | typeQueryCallExpressionInTypeAscription | assertion | assertsAscription | anyType
  | tupleParameter | optionalTupleParameter | optionalType | restType | tupleTypeMember
  | constructorType | primaryType | templateType | templateLiteralType | inferType
  | conditionalType | genericType | typePredicate | typePredicateAscription
  | typeQueryMemberExpression | typeQuerySubscriptExpression | typeQueryCallExpression
  | typeQueryInstantiationExpression | typeQuery | indexTypeQuery | lookupType | mappedTypeClause
  | literalType | signedNumber | existentialType | flowMaybeType | parenthesizedType
  | predefinedType | typeArguments | objectType | callMember | propertySignature | typeParameters
  | typeParameter | defaultType | typeConstraint | constructSignature | indexSignature | arrayType
  | tupleType | readonlyType | unionType | intersectionType | functionType | typeIdentifier
  deriving DecidableEq, Repr, Inhabited, Hashable

namespace Phrase

/-- How many phrases there are. -/
def count : Nat := 207

/-- All phrases, in order. -/
def all : List Phrase := (List.range count).map Phrase.ofNat

/-- The place of a phrase in the order. -/
def number (p : Phrase) : Nat := p.ctorIdx

/-- Phrases that group alternatives or parts and leave no node of their own. -/
def isHidden : Phrase → Bool
  | .moduleExportName | .declaration | .fromClause | .statement | .forHeader | .expressions
  | .expression | .primaryExpression | .jsxNode | .jsxChild | .jsxName | .jsxElementName
  | .jsxAttributeOrSpread | .jsxAttributeName | .jsxString | .jsxAttributeValue | .callSignature
  | .formalParameter | .lhsExpression | .augmentedAssignmentLhs | .initializer
  | .destructuringPattern | .nameOrUndefined | .bindingPattern | .propertyName
  | .reservedIdentifier | .semicolon | .jsxStartOpeningElement | .importIdentifier
  | .extendsClauseSingle | .moduleTail | .parameterName
  | .typeQueryMemberExpressionInTypeAscription | .typeQueryCallExpressionInTypeAscription
  | .anyType | .tupleTypeMember | .primaryType | .typeQueryMemberExpression
  | .typeQuerySubscriptExpression | .typeQueryCallExpression | .typeQueryInstantiationExpression
  | .signedNumber | .typeIdentifier => true
  | _ => false

/-- Phrases that every rule replaces by their alternatives. -/
def isInline : Phrase → Bool
  | .expressions | .semicolon | .nameOrUndefined | .reservedIdentifier | .jsxAttributeOrSpread
  | .jsxElementName | .jsxChild | .jsxNode | .jsxAttributeName | .jsxAttributeValue | .jsxName
  | .lhsExpression | .typeIdentifier | .jsxStartOpeningElement => true
  | _ => false

/-- The name of a declaration, as the kind of an exported declaration that is kept as text. -/
def declarationName : Phrase → String
  | .functionDeclaration => "function_declaration"
  | .generatorFunctionDeclaration => "generator_function_declaration"
  | .classDeclaration => "class_declaration"
  | .abstractClassDeclaration => "abstract_class_declaration"
  | .lexicalDeclaration => "lexical_declaration"
  | .variableDeclaration => "variable_declaration"
  | .functionSignature => "function_signature"
  | .moduleDeclaration => "module"
  | .internalModule => "internal_module"
  | .typeAliasDeclaration => "type_alias_declaration"
  | .enumDeclaration => "enum_declaration"
  | .interfaceDeclaration => "interface_declaration"
  | .importAlias => "import_alias"
  | .ambientDeclaration => "ambient_declaration"
  | _ => "declaration"

end Phrase

/-! ## Roles

A part may be known by the role it plays rather than by what it is: the identifier after a dot is
a property, the identifier before a colon a label. -/

/-- The roles. -/
inductive Role where
  | callExpression | identifier | instantiationExpression | interfaceBody | memberExpression
  | optionalParameter | parenthesizedExpression | propertyIdentifier | questionMark
  | requiredParameter | shorthandPropertyIdentifier | shorthandPropertyIdentifierPattern
  | statementIdentifier | string | stringFragment | subscriptExpression | thisType
  | typeIdentifier | unaryExpression | uniqueSymbol
  deriving DecidableEq, Repr, Inhabited, Hashable

namespace Role

/-- The name of a role in a message about a missing token. -/
def name : Role → String
  | callExpression => "call_expression"
  | identifier => "identifier"
  | instantiationExpression => "instantiation_expression"
  | interfaceBody => "interface_body"
  | memberExpression => "member_expression"
  | optionalParameter => "optional_parameter"
  | parenthesizedExpression => "parenthesized_expression"
  | propertyIdentifier => "property_identifier"
  | questionMark => "?"
  | requiredParameter => "required_parameter"
  | shorthandPropertyIdentifier => "shorthand_property_identifier"
  | shorthandPropertyIdentifierPattern => "shorthand_property_identifier_pattern"
  | statementIdentifier => "statement_identifier"
  | string => "string"
  | stringFragment => "string_fragment"
  | subscriptExpression => "subscript_expression"
  | thisType => "this_type"
  | typeIdentifier => "type_identifier"
  | unaryExpression => "unary_expression"
  | uniqueSymbol => "unique symbol"

/-- Signs and fixed words are roles without a meaning of their own. -/
def isNamed : Role → Bool
  | questionMark | uniqueSymbol => false
  | _ => true

end Role

end CustomElement.Grammar
