-- SUMMARY: Rule expressions, the rule of every phrase, and the order of precedence.
import CustomElement.Grammar.Symbol

/-! ## Rules

A rule is an expression over terminals and phrases. Where the rules alone leave a choice open,
ranks and sides decide: of two constructs the higher ranked binds tighter, and among equals a
left-sided one ends early and a right-sided one goes on. -/

namespace CustomElement.Grammar

/-- The named ranks; `precedence` says which is higher. -/
inductive Level where
  | member | templateCall | call | unaryVoid | binaryExp | binaryTimes | binaryPlus | binaryShift
  | binaryCompare | binaryRelation | binaryEquality | bitwiseAnd | bitwiseXor | bitwiseOr
  | logicalAnd | logicalOr | ternary | assign | construction | declare | literal | object
  | instantiation | unary | binary | heritage
  deriving DecidableEq, Repr, Inhabited, Hashable

/-- How tightly a construct binds. -/
inductive Rank where
  | unranked
  | level (n : Int)
  | named (level : Level)
  deriving DecidableEq, Repr, Inhabited, Hashable

/-- The side to which a construct associates. -/
inductive Side where
  | left | right
  deriving DecidableEq, Repr, Inhabited, Hashable

/-- A rule expression. `favour` weighs readings of one text that no rank tells apart. -/
inductive Rule where
  | blank
  | terminal (t : Terminal)
  | part (p : Phrase)
  | seq (parts : List Rule)
  | choice (alternatives : List Rule)
  | many1 (body : Rule)
  | ranked (rank : Rank) (side : Option Side) (body : Rule)
  | favour (weight : Int) (body : Rule)
  | called (role : Role) (body : Rule)
  deriving Repr, Inhabited

namespace Rule

/-- A fixed text. -/
def text (spelling : String) : Rule := terminal (.text spelling)

/-- A token of a class. -/
def lexeme (class_ : Lexeme) : Rule := terminal (.lexeme class_)

/-- A layout token. -/
def layout (kind : Layout) : Rule := terminal (.layout kind)

/-- The body or nothing. -/
def opt (body : Rule) : Rule := choice [body, blank]

/-- Any number of bodies. -/
def many (body : Rule) : Rule := opt (many1 body)

/-- Bodies with separators between them, at least one. -/
def sepBy (separator body : Rule) : Rule := seq [body, many (seq [separator, body])]

/-- Bodies with commas between them, at least one. -/
def commas (body : Rule) : Rule := sepBy (text ",") body

/-- A ranked body that associates to neither side. -/
def rankAt (rank : Rank) (body : Rule) : Rule := ranked rank none body

/-- A ranked body that associates to the left. -/
def leftAt (rank : Rank) (body : Rule) : Rule := ranked rank (some .left) body

/-- A ranked body that associates to the right. -/
def rightAt (rank : Rank) (body : Rule) : Rule := ranked rank (some .right) body

/-- A body of the middle rank that associates to the left. -/
def left (body : Rule) : Rule := leftAt (.level 0) body

/-- A body of the middle rank that associates to the right. -/
def right (body : Rule) : Rule := rightAt (.level 0) body

/-- A binary operation. -/
def operation (operator : String) (level : Level) : Rule :=
  leftAt (.named level) (seq [part .expression, text operator, part .expression])

end Rule

/-! ## The rule of each phrase -/

open Rule in
/-- What each phrase consists of. -/
def Phrase.rule : Phrase → Rule
  | .program => seq [opt (lexeme .hashBang), many (part .statement)]
  | .exportStatement =>
    choice [
      choice [
        seq [
          text "export",
          choice [
            seq [text "*", part .fromClause], seq [part .namespaceExport, part .fromClause],
            seq [part .exportClause, part .fromClause], part .exportClause],
          part .semicolon],
        seq [
          many (part .decorator), text "export",
          choice [
            part .declaration,
            seq [
              text "default",
              choice [part .declaration, seq [part .expression, part .semicolon]]]]]],
      seq [
        text "export", text "type", part .exportClause, opt (part .fromClause), part .semicolon],
      seq [text "export", text "import", part .importAlias],
      seq [text "export", text "=", part .expression, part .semicolon],
      seq [text "export", text "as", text "namespace", lexeme .identifier, part .semicolon]]
  | .namespaceExport => seq [text "*", text "as", part .moduleExportName]
  | .exportClause =>
    seq [text "\x7b", opt (commas (part .exportSpecifier)), opt (text ","), text "\x7d"]
  | .exportSpecifier =>
    seq [
      opt (choice [text "type", text "typeof"]),
      seq [part .moduleExportName, opt (seq [text "as", part .moduleExportName])]]
  | .moduleExportName => choice [lexeme .identifier, part .stringLiteral, text "default"]
  | .declaration =>
    choice [
      choice [
        part .functionDeclaration, part .generatorFunctionDeclaration, part .classDeclaration,
        part .lexicalDeclaration, part .variableDeclaration],
      part .functionSignature, part .abstractClassDeclaration, part .moduleDeclaration,
      rankAt (.named .declare) (part .internalModule), part .typeAliasDeclaration,
      part .enumDeclaration, part .interfaceDeclaration, part .importAlias,
      part .ambientDeclaration]
  | .importKeyword => text "import"
  | .importStatement =>
    seq [
      text "import", opt (choice [text "type", text "typeof"]),
      choice [
        seq [part .importClause, part .fromClause], part .importRequireClause,
        part .stringLiteral],
      opt (part .importAttribute), part .semicolon]
  | .importClause =>
    choice [
      part .namespaceImport, part .namedImports,
      seq [
        part .importIdentifier,
        opt (seq [text ",", choice [part .namespaceImport, part .namedImports]])]]
  | .fromClause => seq [text "from", part .stringLiteral]
  | .namespaceImport => seq [text "*", text "as", lexeme .identifier]
  | .namedImports =>
    seq [text "\x7b", opt (commas (part .importSpecifier)), opt (text ","), text "\x7d"]
  | .importSpecifier =>
    seq [
      opt (choice [text "type", text "typeof"]),
      choice [
        part .importIdentifier,
        seq [
          choice [part .moduleExportName, called .identifier (text "type")], text "as",
          part .importIdentifier]]]
  | .importAttribute => seq [text "with", part .objectLiteral]
  | .statement =>
    choice [
      part .exportStatement, part .importStatement, part .debuggerStatement,
      part .expressionStatement, part .declaration, part .statementBlock, part .ifStatement,
      part .switchStatement, part .forStatement, part .forInStatement, part .whileStatement,
      part .doStatement, part .tryStatement, part .withStatement, part .breakStatement,
      part .continueStatement, part .returnStatement, part .throwStatement, part .emptyStatement,
      part .labeledStatement]
  | .expressionStatement => seq [part .expressions, part .semicolon]
  | .variableDeclaration => seq [text "var", commas (part .variableDeclarator), part .semicolon]
  | .lexicalDeclaration =>
    seq [choice [text "let", text "const"], commas (part .variableDeclarator), part .semicolon]
  | .variableDeclarator =>
    choice [
      seq [
        choice [lexeme .identifier, part .destructuringPattern], opt (part .typeAscription),
        opt (part .initializer)],
      rankAt (.named .declare) (seq [lexeme .identifier, text "!", part .typeAscription])]
  | .statementBlock =>
    right (seq [text "\x7b", many (part .statement), text "\x7d", opt (layout .semicolon)])
  | .elseClause => seq [text "else", part .statement]
  | .ifStatement =>
    right (seq [text "if", part .parenthesizedExpression, part .statement, opt (part .elseClause)])
  | .switchStatement => seq [text "switch", part .parenthesizedExpression, part .switchBody]
  | .forStatement =>
    seq [
      text "for", text "(",
      choice [
        choice [part .lexicalDeclaration, part .variableDeclaration],
        seq [part .expressions, text ";"], part .emptyStatement],
      choice [seq [part .expressions, text ";"], part .emptyStatement], opt (part .expressions),
      text ")", part .statement]
  | .forInStatement => seq [text "for", opt (text "await"), part .forHeader, part .statement]
  | .forHeader =>
    seq [
      text "(",
      choice [
        choice [part .lhsExpression, part .parenthesizedExpression],
        seq [
          text "var", choice [lexeme .identifier, part .destructuringPattern],
          opt (part .initializer)],
        seq [
          choice [text "let", text "const"],
          choice [lexeme .identifier, part .destructuringPattern], opt (layout .semicolon)]],
      choice [text "in", text "of"], part .expressions, text ")"]
  | .whileStatement => seq [text "while", part .parenthesizedExpression, part .statement]
  | .doStatement =>
    right (seq [
      text "do", part .statement, text "while", part .parenthesizedExpression,
      opt (part .semicolon)])
  | .tryStatement =>
    seq [text "try", part .statementBlock, opt (part .catchClause), opt (part .finallyClause)]
  | .withStatement => seq [text "with", part .parenthesizedExpression, part .statement]
  | .breakStatement =>
    seq [text "break", opt (called .statementIdentifier (lexeme .identifier)), part .semicolon]
  | .continueStatement =>
    seq [text "continue", opt (called .statementIdentifier (lexeme .identifier)), part .semicolon]
  | .debuggerStatement => seq [text "debugger", part .semicolon]
  | .returnStatement => seq [text "return", opt (part .expressions), part .semicolon]
  | .throwStatement => seq [text "throw", part .expressions, part .semicolon]
  | .emptyStatement => text ";"
  | .labeledStatement =>
    favour (-1) (seq [
      called .statementIdentifier (choice [lexeme .identifier, part .reservedIdentifier]),
      text ":", part .statement])
  | .switchBody =>
    seq [text "\x7b", many (choice [part .switchCase, part .switchDefault]), text "\x7d"]
  | .switchCase => seq [text "case", part .expressions, text ":", many (part .statement)]
  | .switchDefault => seq [text "default", text ":", many (part .statement)]
  | .catchClause =>
    seq [
      text "catch",
      opt (seq [
        text "(", choice [lexeme .identifier, part .destructuringPattern],
        opt (part .typeAscription), text ")"]),
      part .statementBlock]
  | .finallyClause => seq [text "finally", part .statementBlock]
  | .parenthesizedExpression =>
    seq [
      text "(",
      choice [seq [part .expression, opt (part .typeAscription)], part .sequenceExpression],
      text ")"]
  | .expressions => choice [part .expression, part .sequenceExpression]
  | .expression =>
    choice [
      part .asExpression, part .satisfiesExpression, part .instantiationExpression,
      part .internalModule, part .primaryExpression, part .jsxNode, part .assignmentExpression,
      part .augmentedAssignmentExpression, part .awaitExpression, part .unaryExpression,
      part .binaryExpression, part .ternaryExpression, part .updateExpression,
      part .newExpression, part .yieldExpression]
  | .primaryExpression =>
    choice [
      choice [
        part .subscriptExpression, part .memberExpression, part .parenthesizedExpression,
        part .nameOrUndefined, called .identifier (part .reservedIdentifier), text "this",
        text "super", lexeme .number, part .stringLiteral, part .templateString,
        part .regexLiteral, text "true", text "false", text "null", part .objectLiteral,
        part .arrayLiteral, part .functionExpression, part .arrowFunction,
        part .generatorFunction, part .classExpression, part .metaProperty, part .callExpression],
      part .nonNullExpression]
  | .yieldExpression =>
    right (seq [text "yield", choice [seq [text "*", part .expression], opt (part .expression)]])
  | .objectLiteral =>
    rankAt (.named .object) (seq [
      text "\x7b",
      opt (commas (opt (choice [
        part .objectPair, part .spreadElement, part .methodDefinition,
        called .shorthandPropertyIdentifier
          (choice [lexeme .identifier, part .reservedIdentifier])]))),
      text "\x7d"])
  | .objectPattern =>
    rankAt (.named .object) (seq [
      text "\x7b",
      opt (commas (opt (choice [
        part .pairPattern, part .restPattern, part .objectAssignmentPattern,
        called .shorthandPropertyIdentifierPattern (choice [
          lexeme .identifier, part .reservedIdentifier])]))),
      text "\x7d"])
  | .assignmentPattern => seq [part .bindingPattern, text "=", part .expression]
  | .objectAssignmentPattern =>
    seq [
      choice [
        called .shorthandPropertyIdentifierPattern (choice [
          part .reservedIdentifier, lexeme .identifier]),
        part .destructuringPattern],
      text "=", part .expression]
  | .arrayLiteral =>
    seq [text "[", opt (commas (opt (choice [part .expression, part .spreadElement]))), text "]"]
  | .arrayPattern =>
    seq [
      text "[", opt (commas (opt (choice [part .bindingPattern, part .assignmentPattern]))),
      text "]"]
  | .jsxNode => choice [part .jsxElement, part .jsxSelfClosingElement]
  | .jsxElement => seq [part .jsxOpeningElement, many (part .jsxChild), part .jsxClosingElement]
  | .jsxExpression =>
    seq [
      text "\x7b", opt (choice [part .expression, part .sequenceExpression, part .spreadElement]),
      text "\x7d"]
  | .jsxChild =>
    choice [layout .jsxText, lexeme .characterReference, part .jsxNode, part .jsxExpression]
  | .jsxOpeningElement => favour (-1) (seq [part .jsxStartOpeningElement, text ">"])
  | .jsxName => choice [called .identifier (lexeme .jsxIdentifier), lexeme .identifier]
  | .nestedIdentifier =>
    rankAt (.named .member) (seq [
      choice [lexeme .identifier, called .memberExpression (part .nestedIdentifier)], text ".",
      called .propertyIdentifier (lexeme .identifier)])
  | .jsxNamespaceName => seq [part .jsxName, text ":", part .jsxName]
  | .jsxElementName =>
    choice [
      part .jsxName, called .memberExpression (part .nestedIdentifier), part .jsxNamespaceName]
  | .jsxClosingElement => seq [text "</", opt (part .jsxElementName), text ">"]
  | .jsxSelfClosingElement => favour (-1) (seq [part .jsxStartOpeningElement, text "/>"])
  | .jsxAttributeOrSpread => choice [part .jsxAttribute, part .jsxExpression]
  | .jsxAttributeName =>
    choice [called .propertyIdentifier (part .jsxName), part .jsxNamespaceName]
  | .jsxAttribute => seq [part .jsxAttributeName, opt (seq [text "=", part .jsxAttributeValue])]
  | .jsxString =>
    choice [
      seq [
        text "\"",
        many (choice [called .stringFragment (lexeme .doubleJsxText), lexeme .characterReference]),
        text "\""],
      seq [
        text "'",
        many (choice [called .stringFragment (lexeme .singleJsxText), lexeme .characterReference]),
        text "'"]]
  | .jsxAttributeValue =>
    choice [called .string (part .jsxString), part .jsxExpression, part .jsxNode]
  | .classExpression =>
    rankAt (.named .literal) (seq [
      many (part .decorator), text "class", opt (part .typeIdentifier),
      opt (part .typeParameters), opt (part .classHeritage), part .classBody])
  | .classDeclaration =>
    leftAt (.named .declare) (seq [
      many (part .decorator), text "class", part .typeIdentifier, opt (part .typeParameters),
      opt (part .classHeritage), part .classBody, opt (layout .semicolon)])
  | .classHeritage =>
    choice [seq [part .extendsClause, opt (part .implementsClause)], part .implementsClause]
  | .functionExpression =>
    rankAt (.named .literal) (seq [
      opt (text "async"), text "function", opt (lexeme .identifier), part .callSignature,
      part .statementBlock])
  | .functionDeclaration =>
    rightAt (.named .declare) (seq [
      opt (text "async"), text "function", lexeme .identifier, part .callSignature,
      part .statementBlock, opt (layout .semicolon)])
  | .generatorFunction =>
    rankAt (.named .literal) (seq [
      opt (text "async"), text "function", text "*", opt (lexeme .identifier),
      part .callSignature, part .statementBlock])
  | .generatorFunctionDeclaration =>
    rightAt (.named .declare) (seq [
      opt (text "async"), text "function", text "*", lexeme .identifier, part .callSignature,
      part .statementBlock, opt (layout .semicolon)])
  | .arrowFunction =>
    seq [
      opt (text "async"),
      choice [
        choice [called .identifier (part .reservedIdentifier), lexeme .identifier],
        part .callSignature],
      text "=>", choice [part .expression, part .statementBlock]]
  | .callSignature =>
    seq [
      opt (part .typeParameters), part .formalParameters,
      opt (choice [part .typeAscription, part .assertsAscription, part .typePredicateAscription])]
  | .formalParameter => choice [part .requiredParameter, part .optionalParameter]
  | .optionalChain => text "?."
  | .callExpression =>
    choice [
      rankAt (.named .call) (seq [
        choice [part .expression, part .importKeyword], opt (part .typeArguments),
        part .callArguments]),
      rankAt (.named .templateCall) (seq [
        choice [part .primaryExpression, part .newExpression], part .templateString]),
      rankAt (.named .member) (seq [
        part .primaryExpression, text "?.", opt (part .typeArguments), part .callArguments])]
  | .newExpression =>
    rightAt (.named .construction) (seq [
      text "new", part .primaryExpression, opt (part .typeArguments), opt (part .callArguments)])
  | .awaitExpression => rankAt (.named .unaryVoid) (seq [text "await", part .expression])
  | .memberExpression =>
    rankAt (.named .member) (seq [
      choice [part .expression, part .primaryExpression, part .importKeyword],
      choice [text ".", part .optionalChain],
      choice [lexeme .privateIdentifier, called .propertyIdentifier (lexeme .identifier)]])
  | .subscriptExpression =>
    rightAt (.named .member) (seq [
      choice [part .expression, part .primaryExpression], opt (part .optionalChain), text "[",
      part .expressions, text "]"])
  | .lhsExpression =>
    choice [
      choice [
        part .memberExpression, part .subscriptExpression, part .nameOrUndefined,
        called .identifier (part .reservedIdentifier), part .destructuringPattern],
      part .nonNullExpression]
  | .assignmentExpression =>
    rightAt (.named .assign) (seq [
      opt (text "using"), choice [part .parenthesizedExpression, part .lhsExpression], text "=",
      part .expression])
  | .augmentedAssignmentLhs =>
    choice [
      choice [
        part .memberExpression, part .subscriptExpression,
        called .identifier (part .reservedIdentifier), lexeme .identifier,
        part .parenthesizedExpression],
      part .nonNullExpression]
  | .augmentedAssignmentExpression =>
    rightAt (.named .assign) (seq [
      part .augmentedAssignmentLhs,
      choice [
        text "+=", text "-=", text "*=", text "/=", text "%=", text "^=", text "&=", text "|=",
        text ">>=", text ">>>=", text "<<=", text "**=", text "&&=", text "||=", text "??="],
      part .expression])
  | .initializer => seq [text "=", part .expression]
  | .destructuringPattern => choice [part .objectPattern, part .arrayPattern]
  | .spreadElement => seq [text "...", part .expression]
  | .ternaryExpression =>
    rightAt (.named .ternary) (seq [
      part .expression, called .questionMark (layout .conditionalMark), part .expression,
      text ":", part .expression])
  | .binaryExpression =>
    choice [
      operation "&&" .logicalAnd,
      operation "||" .logicalOr,
      operation ">>" .binaryShift,
      operation ">>>" .binaryShift,
      operation "<<" .binaryShift,
      operation "&" .bitwiseAnd,
      operation "^" .bitwiseXor,
      operation "|" .bitwiseOr,
      operation "+" .binaryPlus,
      operation "-" .binaryPlus,
      operation "*" .binaryTimes,
      operation "/" .binaryTimes,
      operation "%" .binaryTimes,
      rightAt (.named .binaryExp) (seq [part .expression, text "**", part .expression]),
      operation "<" .binaryRelation,
      operation "<=" .binaryRelation,
      operation "==" .binaryEquality,
      operation "===" .binaryEquality,
      operation "!=" .binaryEquality,
      operation "!==" .binaryEquality,
      operation ">=" .binaryRelation,
      operation ">" .binaryRelation,
      operation "??" .ternary,
      operation "instanceof" .binaryRelation,
      leftAt (.named .binaryRelation) (seq [
        choice [part .expression, lexeme .privateIdentifier], text "in", part .expression])]
  | .unaryExpression =>
    leftAt (.named .unaryVoid) (seq [
      choice [text "!", text "~", text "-", text "+", text "typeof", text "void", text "delete"],
      part .expression])
  | .updateExpression =>
    left (choice [
      seq [part .expression, choice [text "++", text "--"]],
      seq [choice [text "++", text "--"], part .expression]])
  | .sequenceExpression => right (commas (part .expression))
  | .stringLiteral =>
    choice [
      seq [
        text "\"",
        many (choice [called .stringFragment (lexeme .doubleQuotedText), lexeme .escape]),
        text "\""],
      seq [
        text "'",
        many (choice [called .stringFragment (lexeme .singleQuotedText), lexeme .escape]),
        text "'"]]
  | .templateString =>
    seq [
      text "`",
      many (choice [
        called .stringFragment (layout .templateText), lexeme .escape, part .templateSubstitution]),
      text "`"]
  | .templateSubstitution => seq [text "$\x7b", part .expressions, text "\x7d"]
  | .regexLiteral =>
    seq [text "/", lexeme .regexPattern, lexeme .regexEnd, opt (lexeme .regexFlags)]
  | .nameOrUndefined => choice [text "undefined", lexeme .identifier]
  | .metaProperty =>
    choice [seq [text "new", text ".", text "target"], seq [text "import", text ".", text "meta"]]
  | .callArguments =>
    seq [text "(", opt (commas (opt (choice [part .expression, part .spreadElement]))), text ")"]
  | .decorator =>
    seq [
      text "@",
      choice [
        lexeme .identifier, called .memberExpression (part .decoratorMemberExpression),
        called .callExpression (part .decoratorCallExpression),
        called .parenthesizedExpression (part .decoratorParenthesizedExpression)]]
  | .decoratorMemberExpression =>
    rankAt (.named .member) (seq [
      choice [lexeme .identifier, called .memberExpression (part .decoratorMemberExpression)],
      text ".", called .propertyIdentifier (lexeme .identifier)])
  | .decoratorCallExpression =>
    rankAt (.named .call) (seq [
      choice [lexeme .identifier, called .memberExpression (part .decoratorMemberExpression)],
      opt (part .typeArguments), part .callArguments])
  | .classBody =>
    seq [
      text "\x7b",
      many (choice [
        seq [many (part .decorator), part .methodDefinition, opt (part .semicolon)],
        seq [part .methodSignature, choice [layout .signatureSemicolon, text ","]],
        part .classStaticBlock,
        seq [
          choice [
            part .abstractMethodSignature, part .indexSignature, part .methodSignature,
            part .publicFieldDefinition],
          choice [part .semicolon, text ","]],
        text ";"]),
      text "\x7d"]
  | .formalParameters =>
    seq [text "(", opt (seq [commas (part .formalParameter), opt (text ",")]), text ")"]
  | .classStaticBlock => seq [text "static", part .statementBlock]
  | .bindingPattern => favour (-1) (choice [part .lhsExpression, part .restPattern])
  | .restPattern => right (seq [text "...", part .lhsExpression])
  | .methodDefinition =>
    left (seq [
      opt (part .accessibilityModifier), opt (text "static"), opt (part .overrideModifier),
      opt (text "readonly"), opt (text "async"), opt (choice [text "get", text "set", text "*"]),
      part .propertyName, opt (text "?"), part .callSignature, part .statementBlock])
  | .objectPair => seq [part .propertyName, text ":", part .expression]
  | .pairPattern =>
    seq [part .propertyName, text ":", choice [part .bindingPattern, part .assignmentPattern]]
  | .propertyName =>
    choice [
      called .propertyIdentifier (choice [lexeme .identifier, part .reservedIdentifier]),
      lexeme .privateIdentifier, part .stringLiteral, lexeme .number, part .computedPropertyName]
  | .computedPropertyName => seq [text "[", part .expression, text "]"]
  | .reservedIdentifier =>
    choice [
      text "declare", text "namespace", text "type", text "public", text "private",
      text "protected", text "override", text "readonly", text "module", text "any",
      text "number", text "boolean", text "string", text "symbol", text "export", text "object",
      text "new", text "readonly",
      choice [text "get", text "set", text "async", text "static", text "export", text "let"]]
  | .semicolon => choice [layout .semicolon, text ";"]
  | .publicFieldDefinition =>
    seq [
      many (part .decorator),
      opt (choice [
        seq [text "declare", opt (part .accessibilityModifier)],
        seq [part .accessibilityModifier, opt (text "declare")]]),
      choice [
        seq [opt (text "static"), opt (part .overrideModifier), opt (text "readonly")],
        seq [opt (text "abstract"), opt (text "readonly")],
        seq [opt (text "readonly"), opt (text "abstract")], opt (text "accessor")],
      part .propertyName, opt (choice [text "?", text "!"]), opt (part .typeAscription),
      opt (part .initializer)]
  | .jsxStartOpeningElement =>
    seq [
      text "<",
      opt (seq [
        choice [
          choice [part .jsxName, part .jsxNamespaceName],
          seq [
            choice [lexeme .identifier, called .memberExpression (part .nestedIdentifier)],
            opt (part .typeArguments)]],
        many (part .jsxAttributeOrSpread)])]
  | .importIdentifier => choice [lexeme .identifier, called .identifier (text "type")]
  | .nonNullExpression => leftAt (.named .unary) (seq [part .expression, text "!"])
  | .methodSignature =>
    seq [
      opt (part .accessibilityModifier), opt (text "static"), opt (part .overrideModifier),
      opt (text "readonly"), opt (text "async"), opt (choice [text "get", text "set", text "*"]),
      part .propertyName, opt (text "?"), part .callSignature]
  | .abstractMethodSignature =>
    seq [
      opt (part .accessibilityModifier), text "abstract", opt (part .overrideModifier),
      opt (choice [text "get", text "set", text "*"]), part .propertyName, opt (text "?"),
      part .callSignature]
  | .functionSignature =>
    seq [
      opt (text "async"), text "function", lexeme .identifier, part .callSignature,
      choice [part .semicolon, layout .signatureSemicolon]]
  | .decoratorParenthesizedExpression =>
    seq [
      text "(",
      choice [
        lexeme .identifier, called .memberExpression (part .decoratorMemberExpression),
        called .callExpression (part .decoratorCallExpression)],
      text ")"]
  | .asExpression =>
    leftAt (.named .binary) (seq [
      part .expression, text "as", choice [text "const", part .anyType]])
  | .satisfiesExpression =>
    leftAt (.named .binary) (seq [part .expression, text "satisfies", part .anyType])
  | .instantiationExpression =>
    rankAt (.named .instantiation) (seq [part .expression, part .typeArguments])
  | .importRequireClause =>
    seq [lexeme .identifier, text "=", text "require", text "(", part .stringLiteral, text ")"]
  | .extendsClause => seq [text "extends", commas (part .extendsClauseSingle)]
  | .extendsClauseSingle =>
    rankAt (.named .heritage) (seq [part .expression, opt (part .typeArguments)])
  | .implementsClause => seq [text "implements", commas (part .anyType)]
  | .ambientDeclaration =>
    seq [
      text "declare",
      choice [
        part .declaration, seq [text "global", part .statementBlock],
        seq [
          text "module", text ".", called .propertyIdentifier (lexeme .identifier), text ":",
          part .anyType, part .semicolon]]]
  | .abstractClassDeclaration =>
    rankAt (.named .declare) (seq [
      many (part .decorator), text "abstract", text "class", part .typeIdentifier,
      opt (part .typeParameters), opt (part .classHeritage), part .classBody])
  | .moduleDeclaration => seq [text "module", part .moduleTail]
  | .internalModule => seq [text "namespace", part .moduleTail]
  | .moduleTail =>
    right (seq [
      choice [part .stringLiteral, lexeme .identifier, part .nestedIdentifier],
      opt (part .statementBlock)])
  | .importAlias =>
    seq [
      text "import", lexeme .identifier, text "=",
      choice [lexeme .identifier, part .nestedIdentifier], part .semicolon]
  | .nestedTypeIdentifier =>
    rankAt (.named .member) (seq [
      choice [lexeme .identifier, part .nestedIdentifier], text ".", part .typeIdentifier])
  | .interfaceDeclaration =>
    seq [
      text "interface", part .typeIdentifier, opt (part .typeParameters),
      opt (part .extendsTypeClause), called .interfaceBody (part .objectType)]
  | .extendsTypeClause =>
    seq [
      text "extends",
      commas (choice [part .typeIdentifier, part .nestedTypeIdentifier, part .genericType])]
  | .enumDeclaration => seq [opt (text "const"), text "enum", lexeme .identifier, part .enumBody]
  | .enumBody =>
    seq [
      text "\x7b",
      opt (seq [commas (choice [part .propertyName, part .enumAssignment]), opt (text ",")]),
      text "\x7d"]
  | .enumAssignment => seq [part .propertyName, part .initializer]
  | .typeAliasDeclaration =>
    seq [
      text "type", part .typeIdentifier, opt (part .typeParameters), text "=", part .anyType,
      part .semicolon]
  | .accessibilityModifier => choice [text "public", text "private", text "protected"]
  | .overrideModifier => text "override"
  | .requiredParameter =>
    seq [part .parameterName, opt (part .typeAscription), opt (part .initializer)]
  | .optionalParameter =>
    seq [part .parameterName, text "?", opt (part .typeAscription), opt (part .initializer)]
  | .parameterName =>
    seq [
      many (part .decorator), opt (part .accessibilityModifier), opt (part .overrideModifier),
      opt (text "readonly"), choice [part .bindingPattern, text "this"]]
  | .omittingTypeAscription => seq [text "-?:", part .anyType]
  | .addingTypeAscription => seq [text "+?:", part .anyType]
  | .optingTypeAscription => seq [text "?:", part .anyType]
  | .typeAscription =>
    seq [
      text ":",
      choice [
        part .anyType, called .memberExpression (part .typeQueryMemberExpressionInTypeAscription),
        called .callExpression (part .typeQueryCallExpressionInTypeAscription)]]
  | .typeQueryMemberExpressionInTypeAscription =>
    seq [
      choice [
        part .importKeyword,
        called .memberExpression (part .typeQueryMemberExpressionInTypeAscription),
        called .callExpression (part .typeQueryCallExpressionInTypeAscription)],
      text ".",
      choice [lexeme .privateIdentifier, called .propertyIdentifier (lexeme .identifier)]]
  | .typeQueryCallExpressionInTypeAscription =>
    seq [
      choice [
        part .importKeyword,
        called .memberExpression (part .typeQueryMemberExpressionInTypeAscription)],
      part .callArguments]
  | .assertion =>
    seq [text "asserts", choice [part .typePredicate, lexeme .identifier, text "this"]]
  | .assertsAscription => seq [text ":", part .assertion]
  | .anyType =>
    choice [
      part .primaryType, part .functionType, part .readonlyType, part .constructorType,
      part .inferType,
      rankAt (.level (-1))
        (called .memberExpression (part .typeQueryMemberExpressionInTypeAscription)),
      rankAt (.level (-1)) (called .callExpression (part .typeQueryCallExpressionInTypeAscription))]
  | .tupleParameter => seq [choice [lexeme .identifier, part .restPattern], part .typeAscription]
  | .optionalTupleParameter => seq [lexeme .identifier, text "?", part .typeAscription]
  | .optionalType => seq [part .anyType, text "?"]
  | .restType => seq [text "...", part .anyType]
  | .tupleTypeMember =>
    choice [
      called .requiredParameter (part .tupleParameter),
      called .optionalParameter (part .optionalTupleParameter), part .optionalType,
      part .restType, part .anyType]
  | .constructorType =>
    left (seq [
      opt (text "abstract"), text "new", opt (part .typeParameters), part .formalParameters,
      text "=>", part .anyType])
  | .primaryType =>
    choice [
      part .parenthesizedType, part .predefinedType, part .typeIdentifier,
      part .nestedTypeIdentifier, part .genericType, part .objectType, part .arrayType,
      part .tupleType, part .flowMaybeType, part .typeQuery, part .indexTypeQuery,
      called .thisType (text "this"), part .existentialType, part .literalType, part .lookupType,
      part .conditionalType, part .templateLiteralType, part .intersectionType, part .unionType,
      text "const"]
  | .templateType => seq [text "$\x7b", choice [part .primaryType, part .inferType], text "\x7d"]
  | .templateLiteralType =>
    seq [
      text "`", many (choice [called .stringFragment (layout .templateText), part .templateType]),
      text "`"]
  | .inferType =>
    right (seq [text "infer", part .typeIdentifier, opt (seq [text "extends", part .anyType])])
  | .conditionalType =>
    right (seq [
      part .anyType, text "extends", part .anyType, text "?", part .anyType, text ":",
      part .anyType])
  | .genericType =>
    rankAt (.named .call) (seq [
      choice [part .typeIdentifier, part .nestedTypeIdentifier], part .typeArguments])
  | .typePredicate =>
    seq [
      choice [lexeme .identifier, text "this", called .identifier (part .predefinedType)],
      text "is", part .anyType]
  | .typePredicateAscription => seq [text ":", part .typePredicate]
  | .typeQueryMemberExpression =>
    seq [
      choice [
        lexeme .identifier, text "this",
        called .subscriptExpression (part .typeQuerySubscriptExpression),
        called .memberExpression (part .typeQueryMemberExpression),
        called .callExpression (part .typeQueryCallExpression)],
      choice [text ".", text "?."],
      choice [lexeme .privateIdentifier, called .propertyIdentifier (lexeme .identifier)]]
  | .typeQuerySubscriptExpression =>
    seq [
      choice [
        lexeme .identifier, text "this",
        called .subscriptExpression (part .typeQuerySubscriptExpression),
        called .memberExpression (part .typeQueryMemberExpression),
        called .callExpression (part .typeQueryCallExpression)],
      opt (text "?."), text "[",
      choice [part .predefinedType, part .stringLiteral, lexeme .number], text "]"]
  | .typeQueryCallExpression =>
    seq [
      choice [
        part .importKeyword, lexeme .identifier,
        called .memberExpression (part .typeQueryMemberExpression),
        called .subscriptExpression (part .typeQuerySubscriptExpression)],
      part .callArguments]
  | .typeQueryInstantiationExpression =>
    seq [
      choice [
        part .importKeyword, lexeme .identifier,
        called .memberExpression (part .typeQueryMemberExpression),
        called .subscriptExpression (part .typeQuerySubscriptExpression)],
      part .typeArguments]
  | .typeQuery =>
    right (seq [
      text "typeof",
      choice [
        called .subscriptExpression (part .typeQuerySubscriptExpression),
        called .memberExpression (part .typeQueryMemberExpression),
        called .callExpression (part .typeQueryCallExpression),
        called .instantiationExpression (part .typeQueryInstantiationExpression),
        lexeme .identifier, text "this"]])
  | .indexTypeQuery => seq [text "keyof", part .primaryType]
  | .lookupType => seq [part .primaryType, text "[", part .anyType, text "]"]
  | .mappedTypeClause =>
    seq [part .typeIdentifier, text "in", part .anyType, opt (seq [text "as", part .anyType])]
  | .literalType =>
    choice [
      called .unaryExpression (part .signedNumber), lexeme .number, part .stringLiteral,
      text "true", text "false", text "null", text "undefined"]
  | .signedNumber => leftAt (.level 1) (seq [choice [text "-", text "+"], lexeme .number])
  | .existentialType => text "*"
  | .flowMaybeType => right (seq [text "?", part .primaryType])
  | .parenthesizedType => seq [text "(", part .anyType, text ")"]
  | .predefinedType =>
    choice [
      text "any", text "number", text "boolean", text "string", text "symbol",
      called .uniqueSymbol (seq [text "unique", text "symbol"]), text "void", text "unknown",
      text "string", text "never", text "object"]
  | .typeArguments => seq [text "<", commas (part .anyType), opt (text ","), text ">"]
  | .objectType =>
    seq [
      choice [text "\x7b", text "\x7b|"],
      opt (seq [
        opt (choice [text ",", text ";"]),
        sepBy (choice [text ",", part .semicolon]) (choice [
          part .exportStatement, part .propertySignature, part .callMember,
          part .constructSignature, part .indexSignature, part .methodSignature]),
        opt (choice [text ",", part .semicolon])]),
      choice [text "\x7d", text "|\x7d"]]
  | .callMember => part .callSignature
  | .propertySignature =>
    seq [
      opt (part .accessibilityModifier), opt (text "static"), opt (part .overrideModifier),
      opt (text "readonly"), part .propertyName, opt (text "?"), opt (part .typeAscription)]
  | .typeParameters => seq [text "<", commas (part .typeParameter), opt (text ","), text ">"]
  | .typeParameter =>
    seq [
      opt (text "const"), part .typeIdentifier, opt (part .typeConstraint),
      opt (part .defaultType)]
  | .defaultType => seq [text "=", part .anyType]
  | .typeConstraint => seq [choice [text "extends", text ":"], part .anyType]
  | .constructSignature =>
    seq [
      opt (text "abstract"), text "new", opt (part .typeParameters), part .formalParameters,
      opt (part .typeAscription)]
  | .indexSignature =>
    seq [
      opt (seq [opt (choice [text "-", text "+"]), text "readonly"]), text "[",
      choice [
        seq [
          choice [lexeme .identifier, called .identifier (part .reservedIdentifier)], text ":",
          part .anyType],
        part .mappedTypeClause],
      text "]",
      choice [
        part .typeAscription, part .omittingTypeAscription, part .addingTypeAscription,
        part .optingTypeAscription]]
  | .arrayType => seq [part .primaryType, text "[", text "]"]
  | .tupleType => seq [text "[", opt (commas (part .tupleTypeMember)), opt (text ","), text "]"]
  | .readonlyType => seq [text "readonly", part .anyType]
  | .unionType => left (seq [opt (part .anyType), text "|", part .anyType])
  | .intersectionType => left (seq [opt (part .anyType), text "&", part .anyType])
  | .functionType =>
    left (seq [
      opt (part .typeParameters), part .formalParameters, text "=>",
      choice [part .anyType, part .assertion, part .typePredicate]])
  | .typeIdentifier => called .typeIdentifier (lexeme .identifier)

/-! ## Precedence -/

/-- A rank or a construct that takes part in the order of precedence. -/
inductive Standing where
  | level (l : Level)
  | phrase (p : Phrase)
  deriving DecidableEq, Repr

/-- Chains of precedence, each from the highest to the lowest. The first chain that holds both
sides of a comparison decides it. -/
def precedence : List (List Standing) := [
  [.level .member, .level .templateCall, .level .call, .phrase .updateExpression,
   .level .unaryVoid, .level .binaryExp, .level .binaryTimes, .level .binaryPlus,
   .level .binaryShift, .level .binaryCompare, .level .binaryRelation, .level .binaryEquality,
   .level .bitwiseAnd, .level .bitwiseXor, .level .bitwiseOr, .level .logicalAnd,
   .level .logicalOr, .level .ternary, .phrase .sequenceExpression, .phrase .arrowFunction],
  [.level .assign, .phrase .primaryExpression],
  [.level .member, .level .templateCall, .level .construction, .level .call, .phrase .expression],
  [.level .declare, .level .literal],
  [.phrase .primaryExpression, .phrase .statementBlock, .level .object],
  [.phrase .metaProperty, .phrase .importKeyword],
  [.phrase .importStatement, .phrase .importKeyword],
  [.phrase .exportStatement, .phrase .primaryExpression],
  [.phrase .lexicalDeclaration, .phrase .primaryExpression],
  [.level .call, .level .instantiation, .level .unary, .level .binary, .phrase .awaitExpression,
   .phrase .arrowFunction],
  [.level .heritage, .level .instantiation],
  [.phrase .intersectionType, .phrase .unionType, .phrase .conditionalType, .phrase .functionType,
   .level .binary, .phrase .typePredicate, .phrase .readonlyType],
  [.phrase .mappedTypeClause, .phrase .primaryExpression],
  [.phrase .accessibilityModifier, .phrase .primaryExpression],
  [.level .unaryVoid, .phrase .expression],
  [.phrase .extendsClause, .phrase .primaryExpression],
  [.level .unary, .level .assign],
  [.level .declare, .phrase .expression],
  [.phrase .predefinedType, .phrase .unaryExpression],
  [.phrase .anyType, .phrase .flowMaybeType],
  [.phrase .tupleType, .phrase .arrayType, .phrase .bindingPattern, .phrase .anyType],
  [.phrase .readonlyType, .phrase .bindingPattern],
  [.phrase .readonlyType, .phrase .primaryExpression],
  [.phrase .typeQuery, .phrase .subscriptExpression, .phrase .expression],
  [.phrase .typeQuery, .phrase .typeQuerySubscriptExpression],
  [.phrase .nestedTypeIdentifier, .phrase .genericType, .phrase .primaryType, .phrase .lookupType,
   .phrase .indexTypeQuery, .phrase .anyType],
  [.phrase .asExpression, .phrase .satisfiesExpression, .phrase .primaryType],
  [.phrase .typeQueryMemberExpression, .phrase .memberExpression],
  [.phrase .memberExpression, .phrase .typeQueryMemberExpressionInTypeAscription],
  [.phrase .typeQueryMemberExpression, .phrase .primaryExpression],
  [.phrase .typeQuerySubscriptExpression, .phrase .subscriptExpression],
  [.phrase .typeQuerySubscriptExpression, .phrase .primaryExpression],
  [.phrase .typeQueryCallExpression, .phrase .primaryExpression],
  [.phrase .typeQueryInstantiationExpression, .phrase .primaryExpression],
  [.phrase .typeQuery, .phrase .primaryExpression],
  [.phrase .overrideModifier, .phrase .primaryExpression],
  [.phrase .decoratorCallExpression, .phrase .decorator],
  [.phrase .literalType, .phrase .bindingPattern],
  [.phrase .predefinedType, .phrase .bindingPattern],
  [.phrase .callExpression, .phrase .typeQueryCallExpression],
  [.phrase .callExpression, .phrase .typeQueryCallExpressionInTypeAscription],
  [.phrase .newExpression, .phrase .primaryExpression],
  [.phrase .metaProperty, .phrase .primaryExpression],
  [.phrase .constructSignature, .phrase .propertyName]]

end CustomElement.Grammar
