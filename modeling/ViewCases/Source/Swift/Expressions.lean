import ViewCases.Source.Swift.Basic

/-! The rules for expressions, control flow and operators. The right operand of an operator
takes no trailing closure when it is called: the closure belongs to the whole. -/
namespace ViewCases.Source.Swift
open Rule

def expressions : List Definition :=
  [hidden "expression"
     (level Level.expression (oneOf [simpleName, name "unaryExpression", name "binaryExpression",
                                     name "ternaryExpression", name "primaryExpression",
                                     name "ifStatement", name "switchStatement",
                                     name "assignment", name "valueParameterPack",
                                     name "valuePackExpansion",
                                     seq [expression,
                                          shownAs (name "adjacentQuestionMark") "?"]])),
   hidden "unaryExpression"
     (anyNamed ["postfixExpression", "callExpression", "macroInvocation", "constructorExpression",
                "navigationExpression", "prefixExpression", "asExpression", "selectorExpression",
                "openStartRangeExpression", "openEndRangeExpression", "directive", "diagnostic"]),
   shown "postfixExpression"
     (leftLevel Level.postfixOperations (seq [expression, name "postfixUnaryOperator"])),
   shown "constructorExpression"
     (level Level.call (seq [anyNamed ["arrayType", "dictionaryType", "userType"],
                             name "constructorSuffix"])),
   hidden "parenthesizedType"
     (seq ["(", inRole (anyNamed ["opaqueType", "existentialType", "dictionaryType"]), ")"]),
   shown "navigationExpression"
     (leftLevel Level.navigation (seq [oneOf [name "navigableTypeExpression", expression,
                                              name "parenthesizedType"],
                                       name "navigationSuffix"])),
   hidden "navigableTypeExpression" (anyNamed ["userType", "arrayType", "dictionaryType"]),
   shown "openStartRangeExpression"
     (rightLevel Level.range (seq [name "rangeOperator",
                                   rightLevel Level.rangeSuffix expression])),
   hidden "rangeOperator" (anyNamed ["openEndedRangeOperator", "threeDotOperator"]),
   shown "openEndRangeExpression"
     (rightLevel Level.range (seq [rightLevel Level.rangeSuffix expression,
                                   name "threeDotOperator"])),
   shown "prefixExpression"
     (leftLevel Level.prefixOperations (seq [name "prefixUnaryOperator",
                                             oneOf [expression,
                                                    shownAs
                                                      (anyWord
                                                        ["async", "if",
                                                         "switch"]) "expression"]])),
   shown "asExpression"
     (leftLevel Level.asOperator (seq [expression, name "asOperator", name "type"])),
   shown "selectorExpression"
     (seq [name "hashSymbol", "selector", "(", maybe (anyWord ["getter:", "setter:"]), expression,
           ")"]),
   hidden "binaryExpression"
     (anyNamed ["multiplicativeExpression", "additiveExpression", "rangeExpression",
                "infixExpression", "nilCoalescingExpression", "checkExpression",
                "equalityExpression", "comparisonExpression", "conjunctionExpression",
                "disjunctionExpression", "bitwiseOperation"]),
   shown "multiplicativeExpression"
     (leftLevel Level.multiplication (seq [expression, name "multiplicativeOperator",
                                           expression])),
   shown "additiveExpression"
     (leftLevel Level.addition (seq [expression, name "additiveOperator", expression])),
   shown "rangeExpression"
     (rightLevel Level.range (seq [expression, name "rangeOperator", operand])),
   shown "infixExpression"
     (leftLevel Level.infixOperations (seq [expression, name "customOperator", operand])),
   shown "nilCoalescingExpression"
     (rightLevel Level.nilCoalescing (seq [expression, name "nilCoalescingOperator", operand])),
   shown "checkExpression"
     (leftLevel Level.check (seq [expression, name "isOperator", name "type"])),
   shown "comparisonExpression" (left (seq [expression, name "comparisonOperator", operand])),
   shown "equalityExpression"
     (leftLevel Level.equality (seq [expression, name "equalityOperator", operand])),
   shown "conjunctionExpression"
     (leftLevel Level.conjunction (seq [expression, name "conjunctionOperator", operand])),
   shown "disjunctionExpression"
     (leftLevel Level.disjunction (seq [expression, name "disjunctionOperator", operand])),
   shown "bitwiseOperation" (left (seq [expression, name "bitwiseBinaryOperator", operand])),
   shown "customOperator" (oneOf [slashStar, Mark.customOperator]),
   shown "navigationSuffix" (seq [name "dot", oneOf [simpleName, name "integerLiteral"]]),
   shown "callSuffix"
     (level Level.callSuffix (oneOf [name "valueArguments", weight (-1) trailingClosures,
                                     seq [name "valueArguments", trailingClosures]])),
   shown "constructorSuffix"
     (level Level.callSuffix (oneOf [constructorArguments, weight (-1) trailingClosures,
                                     seq [constructorArguments, trailingClosures]])),
   hidden "constructorValueArguments" (seq ["(", maybe (listed (name "valueArgument") ","), ")"]),
   hidden "trailingClosures" (separated (name "closureLiteral") (seq [inRole simpleName, ":"])),
   shown "typeArguments"
     (left (seq ["<", listed (anyNamed ["type", "integerLiteral"]) ",", ">"])),
   shown "valueArguments"
     (seq [oneOf [seq ["(", maybe (listed (name "valueArgument") ","), ")"],
                  seq ["[", maybe (listed (name "valueArgument") ","), "]"]]]),
   shown "valueArgumentLabel"
     (left (oneOf [simpleName, shownAs "if" "simpleIdentifier",
                   shownAs "switch" "simpleIdentifier"])),
   shown "valueArgument"
     (left (seq [maybe (name "typeModifiers"),
                 oneOf [many (seq [name "valueArgumentLabel", ":"]),
                        seq [maybe (seq [name "valueArgumentLabel", ":"]), expression]]])),
   shown "tryExpression"
     (rightLevel Level.attempt (seq [name "tryOperator",
                                     oneOf [rightLevel (-2) expression,
                                            leftLevel 0 (name "binaryExpression"),
                                            leftLevel 0 (name "callExpression"),
                                            weight 1 (leftLevel (-1)
                                                       (name "ternaryExpression"))]])),
   shown "awaitExpression"
     (rightLevel Level.awaiting (seq [name "awaitOperator",
                                      oneOf [rightLevel (-2) expression,
                                             leftLevel 0 (name "callExpression"),
                                             weight 1 (leftLevel (-1)
                                                        (name "ternaryExpression"))]])),
   hidden "awaitOperator" (shownAs "await" "await"),
   shown "ternaryExpression"
     (rightLevel Level.ternary (seq [expression, name "questionMark", expression, ":", operand])),
   hidden "rightOperand"
     (leftLevel Level.rightOperand (oneOf [expression,
                                           shownAs (name "argumentCall") "callExpression"])),
   shown "argumentCall" (seq [expression, shownAs (name "argumentSuffix") "callSuffix"]),
   shown "argumentSuffix" (level Level.callSuffix (name "valueArguments")),
   shown "callExpression" (level Level.call (weight 1 (seq [expression, name "callSuffix"]))),
   shown "macroInvocation"
     (level Level.call (weight 1 (seq [name "hashSymbol", simpleName,
                                       maybe (name "typeParameters"), name "callSuffix"]))),
   hidden "primaryExpression"
     (oneOf [name "tupleExpression", name "basicLiteral", name "closureLiteral",
             name "specialLiteral", name "playgroundLiteral", name "arrayLiteral",
             name "dictionaryLiteral", name "selfExpression", name "superExpression",
             name "tryExpression", name "awaitExpression", name "referenceableOperator",
             name "keyPathExpression", name "keyPathStringExpression",
             rightLevel Level.fullyOpenRange (shownAs (name
                                                        "threeDotOperator") "fullyOpenRange")]),
   shown "tupleExpression"
     (rightLevel Level.tuple (seq ["(",
                                   maybe (listed (seq [maybe (seq [simpleName, ":"]),
                                                       expression]) ","),
                                   ")"])),
   shown "arrayLiteral" (seq ["[", maybe (listed expression ","), "]"]),
   shown "dictionaryLiteral"
     (seq ["[", oneOf [":", listed (name "dictionaryLiteralItem") ","], maybe ",", "]"]),
   hidden "dictionaryLiteralItem" (seq [inRole expression, ":", expression]),
   shown "specialLiteral"
     (seq [name "hashSymbol",
           anyWord ["file", "fileID", "filePath", "line", "column", "function", "dsohandle"]]),
   shown "playgroundLiteral"
     (seq [name "hashSymbol", anyWord ["colorLiteral", "fileLiteral", "imageLiteral"], "(",
           listed (seq [simpleName, ":", expression]) ",", ")"]),
   shown "closureLiteral"
     (leftLevel Level.closure (seq [anyWord ["\x7b", "^\x7b"], maybe (name "closureHead"),
                                    maybe (name "statements"), "\x7d"])),
   hidden "closureHead"
     (seq [several (name "attribute"), level Level.expression (maybe (name "captureList")),
           maybe (name "closureType"), "in"]),
   shown "captureList" (seq ["[", listed (name "captureListItem") ",", "]"]),
   shown "captureListItem"
     (oneOf [name "selfExpression",
             level Level.expression (seq [maybe (name "ownershipModifier"), simpleName,
                                          maybe (seq [name "equalSign", expression])])]),
   shown "closureType"
     (level Level.expression (seq [oneOf [name "closureParameters",
                                          seq ["(", maybe (name "closureParameters"), ")"]],
                                   maybe (name "asyncKeyword"),
                                   maybe (anyNamed ["throwsClause", "throws"]),
                                   maybe (seq [name "arrowOperator",
                                               name "possiblyImplicitlyUnwrappedType"])])),
   shown "closureParameters" (listed (name "closureParameter") ","),
   shown "closureParameter"
     (seq [oneOf [name "selfExpression", level Level.expression simpleName,
                  level Level.expression (seq [maybe simpleName, simpleName, ":",
                                               maybe (name "parameterModifiers"),
                                               name "possiblyImplicitlyUnwrappedType"])]]),
   shown "selfExpression" "self",
   shown "superExpression" "super",
   hidden "elseOptions" (anyNamed ["block", "ifStatement"]),
   shown "ifStatement"
     (rightLevel Level.conditional (seq ["if", separated (name "ifConditionSequenceItem") ",",
                                         name "block",
                                         maybe (seq [Mark.elseWord, name "elseOptions"])])),
   hidden "ifConditionSequenceItem"
     (oneOf [name "ifLetBinding", expression, name "availabilityCondition"]),
   hidden "ifLetBinding"
     (seq [name "directOrIndirectBinding", maybe (seq [name "equalSign", expression]),
           maybe (name "whereClause")]),
   shown "guardStatement"
     (rightLevel Level.conditional (seq ["guard", separated (name "ifConditionSequenceItem") ",",
                                         Mark.elseWord, name "block"])),
   shown "switchStatement"
     (rightLevel Level.switchBlock (seq ["switch", expression, "\x7b",
                                         several (name "switchEntry"), "\x7d"])),
   shown "switchEntry"
     (seq [maybe (name "modifiers"),
           oneOf [seq ["case",
                       seq [name "switchPattern", maybe (seq [Mark.whereWord, expression])],
                       several (seq [",", name "switchPattern"])],
                  Mark.defaultWord],
           ":", name "statements", maybe "fallthrough"]),
   shown "switchPattern" (shownAs (name "bindingPatternWithExpr") "pattern"),
   shown "doStatement"
     (rightLevel Level.doBlock (seq ["do", maybe (anyNamed ["throwsClause", "throws"]),
                                     name "block", several (name "catchBlock")])),
   shown "catchBlock"
     (seq [Mark.catchWord, maybe (shownAs (name "bindingPatternWithoutExpr") "pattern"),
           maybe (name "whereClause"), name "block"]),
   shown "whereClause" (left (seq [Mark.whereWord, expression])),
   shown "keyPathExpression"
     (rightLevel Level.keyPath (seq ["\\",
                                     maybe (anyNamed ["simpleUserType", "arrayType",
                                                      "dictionaryType"]),
                                     several (seq [name "dot", name "keyPathComponent"])])),
   shown "keyPathStringExpression"
     (left (seq [name "hashSymbol", "keyPath", "(", expression, ")"])),
   hidden "keyPathComponent"
     (left (oneOf [seq [simpleName, several (name "keyPathPostfixes")],
                   many (name "keyPathPostfixes")])),
   hidden "keyPathPostfixes"
     (oneOf ["?", name "exclamationMark", "self",
             seq ["[", maybe (separated (name "valueArgument") ","), "]"]]),
   shown "tryOperator"
     (right (seq ["try", oneOf [maybe (name "tryOperatorType"), Mark.tryBang]])),
   hidden "tryOperatorType" (oneOf [Token.adjacent "!", Token.adjacent "?"]),
   hidden "assignmentAndOperator" (oneOf ["+=", "-=", "*=", "/=", "%=", name "equalSign"]),
   hidden "equalityOperator" (oneOf ["!=", "!==", name "equalEqual", "==="]),
   hidden "comparisonOperator" (anyWord ["<", ">", "<=", ">="]),
   hidden "threeDotOperator" (shownAs "..." "..."),
   hidden "openEndedRangeOperator" (shownAs "..<" "..<"),
   hidden "isOperator" "is",
   hidden "additiveOperator"
     (oneOf [shownAs Mark.plusThenBlank "+", shownAs Mark.minusThenBlank "-", "+", "-"]),
   hidden "multiplicativeOperator"
     (oneOf ["*", shownAs ((Token.word "/").withRank Level.regex) "/", "%"]),
   shown "asOperator" (anyNamed ["plainAs", "asOptional", "asForced"]),
   hidden "prefixUnaryOperator"
     (right (oneOf ["++", "--", "-", "+", name "exclamationMark", "&", "~", name "dot",
                    name "customOperator"])),
   hidden "bitwiseBinaryOperator" (anyWord ["&", "|", "^", "<<", ">>"]),
   hidden "postfixUnaryOperator" (oneOf ["++", "--", name "exclamationMark"]),
   shown "directlyAssignableExpression" expression]

end ViewCases.Source.Swift
