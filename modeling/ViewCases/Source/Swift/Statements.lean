import ViewCases.Source.Swift.Basic

/-! The rules for statements. -/
namespace ViewCases.Source.Swift
open Rule

def statements : List Definition :=
  [shown "statements"
     (left (seq [name "localStatement", several (seq [name "separator", name "localStatement"]),
                 maybe (name "separator")])),
   hidden "localStatement"
     (oneOf [expression, name "localDeclaration", name "labeledStatement",
             name "controlTransferStatement", name "throwStatement"]),
   hidden "topLevelStatement"
     (oneOf [expression, name "globalDeclaration", name "labeledStatement",
             name "throwStatement"]),
   hidden "block" (level Level.block (seq ["\x7b", maybe (name "statements"), "\x7d"])),
   hidden "labeledStatement"
     (seq [maybe (name "statementLabel"),
           anyNamed ["forStatement", "whileStatement", "repeatWhileStatement", "doStatement",
                     "ifStatement", "guardStatement", "switchStatement"]]),
   shown "statementLabel" labelName,
   shown "forStatement"
     (level Level.loop (seq ["for", maybe (name "tryOperator"), maybe (name "awaitOperator"),
                             shownAs (name "bindingPatternWithoutExpr") "pattern",
                             maybe (name "typeAnnotation"), "in", name "forStatementCollection",
                             maybe (name "whereClause"), name "block"])),
   hidden "forStatementCollection"
     (oneOf [expression, shownAs (name "forStatementAwait") "awaitExpression"]),
   shown "forStatementAwait" (seq [name "awaitOperator", expression]),
   shown "whileStatement"
     (level Level.loop (seq ["while", separated (name "ifConditionSequenceItem") ",", "\x7b",
                             maybe (name "statements"), "\x7d"])),
   shown "repeatWhileStatement"
     (level Level.loop (seq ["repeat", "\x7b", maybe (name "statements"), "\x7d",
                             several Mark.lineEnd, "while",
                             separated (name "ifConditionSequenceItem") ","])),
   shown "controlTransferStatement"
     (rightLevel Level.controlTransfer (seq [name "optionallyValuefulControlKeyword",
                                             maybe expression])),
   hidden "throwStatement" (seq [name "throwKeyword", expression]),
   shown "throwKeyword" "throw",
   hidden "optionallyValuefulControlKeyword" (anyWord ["return", "continue", "break", "yield"]),
   shown "assignment"
     (leftLevel Level.assignment (seq [name "directlyAssignableExpression",
                                       name "assignmentAndOperator", expression])),
   shown "valueParameterPack" (leftLevel Level.parameterPack (seq ["each", expression])),
   shown "valuePackExpansion" (leftLevel Level.parameterPack (seq ["repeat", expression])),
   shown "availabilityCondition"
     (seq [name "hashSymbol", anyWord ["available", "unavailable"], "(",
           listed (name "availabilityArgument") ",", ")"]),
   hidden "availabilityArgument"
     (oneOf [seq [name "identifier", separated (name "integerLiteral") (name "dot")], "*"])]

end ViewCases.Source.Swift
