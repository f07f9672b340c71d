import ViewCases.Source.Swift.Basic

/-! The rules for attributes, patterns, modifiers and directives. -/
namespace ViewCases.Source.Swift
open Rule

def modifiers : List Definition :=
  [shown "attribute"
     (seq ["@", name "userType",
           maybe (seq ["(", maybe (listed (name "attributeArgument") ","), ")"])]),
   hidden "attributeArgument"
     (oneOf [seq [simpleName, ":", expression], expression, many (seq [simpleName, ":"]),
             seq [many simpleName, separated (name "integerLiteral") (name "dot")]]),
   hidden "universallyAllowedPattern"
     (anyNamed ["wildcardPattern", "tuplePattern", "typeCastingPattern", "casePattern"]),
   hidden "boundIdentifier" (inRole simpleName),
   hidden "bindingPatternWithoutExpr"
     (seq [anyNamed ["universallyAllowedPattern", "bindingPattern", "boundIdentifier"],
           maybe (name "questionMark")]),
   hidden "boundPattern"
     (seq [anyNamed ["universallyAllowedPattern", "boundIdentifier"],
           maybe (name "questionMark")]),
   hidden "bindingPatternWithExpr"
     (seq [oneOf [name "universallyAllowedPattern", name "bindingPattern", expression],
           maybe (name "questionMark")]),
   hidden "directOrIndirectBinding"
     (seq [oneOf [name "bindingKindAndPattern", seq ["case", name "bindingPatternWithoutExpr"]],
           maybe (name "typeAnnotation")]),
   shown "valueBindingPattern" (anyWord ["var", "let"]),
   hidden "possiblyAsyncBindingPatternKind"
     (seq [maybe (name "asyncModifier"), name "valueBindingPattern"]),
   hidden "bindingKindAndPattern"
     (seq [name "possiblyAsyncBindingPatternKind", name "boundPattern"]),
   shown "wildcardPattern" "_",
   hidden "tuplePatternItem" (oneOf [seq [simpleName, seq [":", exprPattern]], exprPattern]),
   hidden "tuplePattern" (seq ["(", listed (name "tuplePatternItem") ",", ")"]),
   hidden "casePattern"
     (seq [maybe "case", maybe (name "userType"), name "dot", simpleName,
           maybe (name "tuplePattern")]),
   hidden "typeCastingPattern"
     (oneOf [seq ["is", name "type"],
             seq [shownAs (name "bindingPatternWithoutExpr") "pattern", name "plainAs",
                  name "type"]]),
   hidden "bindingPattern"
     (seq [seq [maybe "case", name "valueBindingPattern"], name "boundPattern"]),
   shown "modifiers"
     (many (left (anyNamed ["nonLocalScopeModifier", "locallyPermittedModifiers"]))),
   hidden "locallyPermittedModifiers" (many (anyNamed ["attribute", "locallyPermittedModifier"])),
   shown "parameterModifiers" (many (name "parameterModifier")),
   hidden "modifier" (anyNamed ["nonLocalScopeModifier", "locallyPermittedModifier"]),
   hidden "nonLocalScopeModifier"
     (anyNamed ["memberModifier", "visibilityModifier", "functionModifier", "mutationModifier",
                "propertyModifier", "parameterModifier"]),
   hidden "locallyPermittedModifier"
     (anyNamed ["ownershipModifier", "inheritanceModifier", "propertyBehaviorModifier"]),
   shown "propertyBehaviorModifier" "lazy",
   shown "typeModifiers" (many (name "attribute")),
   shown "memberModifier" (anyWord ["override", "convenience", "required", "nonisolated"]),
   shown "visibilityModifier"
     (seq [anyWord ["public", "private", "internal", "fileprivate", "open", "package"],
           maybe (seq ["(", "set", ")"])]),
   shown "typeParameterModifiers" (many (name "attribute")),
   shown "functionModifier" (anyWord ["infix", "postfix", "prefix"]),
   shown "mutationModifier" (anyWord ["mutating", "nonmutating"]),
   shown "propertyModifier" (anyWord ["static", "dynamic", "optional", "class", "distributed"]),
   shown "inheritanceModifier" "final",
   shown "parameterModifier"
     (oneOf ["inout", "@escaping", "@autoclosure", "sending", name "parameterOwnershipModifier"]),
   shown "ownershipModifier" (anyWord ["weak", "unowned", "unowned(safe)", "unowned(unsafe)"]),
   hidden "parameterOwnershipModifier" (anyWord ["borrowing", "consuming"]),
   shown "directive"
     (rightLevel Level.comment (oneOf [seq [shownAs Mark.ifDirective "#if", condition],
                                       seq [shownAs Mark.elseifDirective "#elseif", condition],
                                       shownAs Mark.elseDirective "#else",
                                       shownAs Mark.endifDirective "#endif"])),
   hidden "compilationCondition"
     (right (oneOf [seq ["os", "(", simpleName, ")"], seq ["arch", "(", simpleName, ")"],
                    seq ["swift", "(", name "comparisonOperator",
                         separated (name "integerLiteral") (name "dot"), ")"],
                    seq ["compiler", "(", name "comparisonOperator",
                         separated (name "integerLiteral") (name "dot"), ")"],
                    seq ["canImport", "(", separated simpleName (name "dot"), ")"],
                    seq ["targetEnvironment", "(", simpleName, ")"], name "booleanLiteral",
                    simpleName, seq ["(", condition, ")"], seq ["!", condition],
                    seq [condition, name "conjunctionOperator", condition],
                    seq [condition, name "disjunctionOperator", condition]])),
   shown "diagnostic"
     (level Level.comment (seq [name "hashSymbol",
                                oneOf [errorText, warningText, sourceLocationText]]))]

end ViewCases.Source.Swift
