import ViewCases.Source.Swift.Basic

/-! The rules for declarations and their bodies. -/
namespace ViewCases.Source.Swift
open Rule

def declarations : List Definition :=
  [hidden "globalDeclaration"
     (anyNamed ["importDeclaration", "propertyDeclaration", "typealiasDeclaration",
                "functionDeclaration", "initDeclaration", "classDeclaration",
                "protocolDeclaration", "operatorDeclaration", "precedenceGroupDeclaration",
                "associatedTypeDeclaration", "macroDeclaration"]),
   hidden "typeLevelDeclaration"
     (anyNamed ["importDeclaration", "propertyDeclaration", "typealiasDeclaration",
                "functionDeclaration", "initDeclaration", "classDeclaration",
                "protocolDeclaration", "deinitDeclaration", "subscriptDeclaration",
                "operatorDeclaration", "precedenceGroupDeclaration", "associatedTypeDeclaration",
                "directive", "diagnostic"]),
   hidden "localDeclaration"
     (oneOf [shownAs (name "localPropertyDeclaration") "propertyDeclaration",
             shownAs (name "localTypealiasDeclaration") "typealiasDeclaration",
             shownAs (name "localFunctionDeclaration") "functionDeclaration",
             shownAs (name "localClassDeclaration") "classDeclaration"]),
   hidden "localPropertyDeclaration"
     (seq [localModifiers, name "modifierlessPropertyDeclaration"]),
   hidden "localTypealiasDeclaration"
     (seq [localModifiers, name "modifierlessTypealiasDeclaration"]),
   hidden "localFunctionDeclaration"
     (seq [localModifiers, name "modifierlessFunctionDeclaration"]),
   hidden "localClassDeclaration" (seq [localModifiers, name "modifierlessClassDeclaration"]),
   shown "importDeclaration"
     (seq [maybe (name "modifiers"), "import", maybe (name "importKind"), name "identifier"]),
   hidden "importKind"
     (anyWord ["typealias", "struct", "class", "enum", "protocol", "let", "var", "func"]),
   shown "protocolPropertyDeclaration"
     (right (seq [maybe (name "modifiers"), shownAs (name "bindingKindAndPattern") "pattern",
                  maybe (name "typeAnnotation"), maybe (name "typeConstraints"),
                  name "protocolPropertyRequirements"])),
   shown "protocolPropertyRequirements"
     (seq ["\x7b", several (anyNamed ["getterSpecifier", "setterSpecifier"]), "\x7d"]),
   shown "propertyDeclaration"
     (seq [maybe (name "modifiers"), name "modifierlessPropertyDeclaration"]),
   hidden "modifierlessPropertyDeclaration"
     (right (seq [name "possiblyAsyncBindingPatternKind",
                  separated (name "singleModifierlessPropertyDeclaration") ","])),
   hidden "singleModifierlessPropertyDeclaration"
     (left (seq [inRole (shownAs (name "boundPattern") "pattern"), maybe (name "typeAnnotation"),
                 maybe (name "typeConstraints"),
                 maybe (anyNamed ["observedValue", "plainValue", "observers",
                                  "computedProperty"])])),
   hidden "observedValue"
     (weight 1 (seq [name "equalSign", inRole expression, name "observers"])),
   hidden "plainValue" (seq [name "equalSign", inRole expression]),
   shown "observers"
     (oneOf [seq ["\x7b", name "willSetClause", maybe (name "didSetClause"), "\x7d"],
             seq ["\x7b", name "didSetClause", maybe (name "willSetClause"), "\x7d"]]),
   shown "willSetClause"
     (seq [maybe (name "modifiers"), "willSet", maybe (seq ["(", simpleName, ")"]),
           name "block"]),
   shown "didSetClause"
     (seq [maybe (name "modifiers"), "didSet", maybe (seq ["(", simpleName, ")"]), name "block"]),
   shown "typealiasDeclaration"
     (seq [maybe (name "modifiers"), name "modifierlessTypealiasDeclaration"]),
   hidden "modifierlessTypealiasDeclaration"
     (seq ["typealias", inRole typeName, maybe (name "typeParameters"), name "equalSign",
           name "type"]),
   shown "functionDeclaration" (right (seq [name "functionSignature", name "functionBody"])),
   hidden "modifierlessFunctionDeclaration"
     (right (seq [name "modifierlessFunctionHead", inRole (name "functionBody")])),
   hidden "functionSignature"
     (seq [maybe (name "modifiers"), maybe "class", name "modifierlessFunctionHead"]),
   hidden "modifierlessFunctionHead"
     (right (chain [[name "functionHead", maybe (name "typeParameters"),
                     name "functionValueParameters"],
                    effects, [returnClause, maybe (name "typeConstraints")]])),
   shown "functionBody" (name "block"),
   shown "macroDeclaration"
     (seq [name "macroHead", simpleName, maybe (name "typeParameters"), name "macroSignature",
           maybe (name "macroDefinition"), maybe (name "typeConstraints")]),
   hidden "macroHead" (seq [maybe (name "modifiers"), "macro"]),
   hidden "macroSignature"
     (seq [name "functionValueParameters",
           maybe (seq [name "arrowOperator", inRole (name "unannotatedType")])]),
   shown "macroDefinition"
     (seq [name "equalSign", oneOf [expression, name "externalMacroDefinition"]]),
   shown "externalMacroDefinition"
     (seq [name "hashSymbol", "externalMacro", name "valueArguments"]),
   shown "classDeclaration" (seq [maybe (name "modifiers"), name "modifierlessClassDeclaration"]),
   hidden "modifierlessClassDeclaration"
     (right (oneOf [chain [[anyWord ["class", "struct", "actor"], inRole typeName], typeTail,
                           [name "classBody"]],
                    chain [["extension", name "unannotatedType"], typeTail, [name "classBody"]],
                    chain [[maybe "indirect", "enum", typeName], typeTail,
                           [name "enumClassBody"]]])),
   shown "classBody" (seq ["\x7b", maybe (name "classMemberDeclarations"), "\x7d"]),
   hidden "inheritanceSpecifiers"
     (left (separated (name "annotatedInheritanceSpecifier") (anyWord [",", "&"]))),
   shown "inheritanceSpecifier"
     (left (anyNamed ["userType", "functionType", "suppressedConstraint"])),
   hidden "annotatedInheritanceSpecifier"
     (seq [several (name "attribute"), name "inheritanceSpecifier"]),
   shown "typeParameters"
     (seq ["<", listed (name "typeParameter") ",", maybe (name "typeConstraints"), ">"]),
   shown "typeParameter"
     (seq [maybe (name "typeParameterModifiers"), maybe "let", name "typeParameterPossiblyPacked",
           maybe (seq [":", name "type"])]),
   hidden "typeParameterPossiblyPacked" (oneOf [typeName, name "typeParameterPack"]),
   shown "typeConstraints" (right (seq [Mark.whereWord, listed (name "typeConstraint") ","])),
   shown "typeConstraint" (anyNamed ["inheritanceConstraint", "equalityConstraint"]),
   shown "inheritanceConstraint"
     (seq [several (name "attribute"), name "constrainedType", ":",
           name "possiblyImplicitlyUnwrappedType"]),
   shown "equalityConstraint"
     (seq [several (name "attribute"), name "constrainedType",
           anyNamed ["equalSign", "equalEqual"], name "type"]),
   hidden "constrainedType"
     (oneOf [name "identifier",
             seq [name "unannotatedType",
                  maybe (seq [name "dot", separated simpleName (name "dot")])]]),
   hidden "classMemberSeparator" (oneOf [name "separator", Mark.blockComment]),
   hidden "classMemberDeclarations"
     (seq [separated (name "typeLevelDeclaration") (name "classMemberSeparator"),
           maybe (name "classMemberSeparator")]),
   hidden "functionValueParameters"
     (many (seq ["(", maybe (listed (name "functionValueParameter") ","), ")"])),
   hidden "functionValueParameter"
     (seq [maybe (name "attribute"), name "parameter",
           maybe (seq [name "equalSign", inRole expression])]),
   shown "parameter"
     (seq [maybe simpleName, simpleName, ":", maybe (name "parameterModifiers"),
           name "possiblyImplicitlyUnwrappedType", maybe (name "threeDotOperator")]),
   hidden "functionHead"
     (seq ["func", inRole (oneOf [simpleName, name "referenceableOperator"])]),
   hidden "referenceableOperator"
     (oneOf [name "customOperator", name "comparisonOperator", name "additiveOperator",
             name "multiplicativeOperator", name "equalityOperator", name "comparisonOperator",
             name "assignmentAndOperator", "++", "--", name "exclamationMark", "~", "|", "^",
             "<<", ">>", "&"]),
   hidden "equalSign" (shownAs Mark.assign "="),
   hidden "equalEqual" (shownAs Mark.equal "=="),
   hidden "dot" (shownAs Mark.dot "."),
   hidden "arrowOperator" (shownAs Mark.arrow "->"),
   hidden "conjunctionOperator" (shownAs Mark.conjunction "&&"),
   hidden "disjunctionOperator" (shownAs Mark.disjunction "||"),
   hidden "nilCoalescingOperator" (shownAs Mark.nilCoalescing "??"),
   hidden "plainAs" (shownAs Mark.asWord "as"),
   hidden "asOptional" (shownAs Mark.asOptional "as?"),
   hidden "asForced" (shownAs Mark.asForced "as!"),
   hidden "hashSymbol" (shownAs Mark.hash "#"),
   shown "exclamationMark" (oneOf [Mark.bang, "!"]),
   hidden "asyncKeyword" (shownAs Mark.asyncWord "async"),
   hidden "asyncModifier" "async",
   shown "throws" (oneOf [Mark.throwsWord, Mark.rethrowsWord]),
   shown "throwsClause" (seq [Mark.throwsWord, "(", name "unannotatedType", ")"]),
   shown "enumClassBody"
     (seq ["\x7b", several (anyNamed ["enumEntry", "typeLevelDeclaration"]), "\x7d"]),
   shown "enumEntry"
     (seq [maybe (name "modifiers"), maybe "indirect", "case",
           separated (seq [simpleName, maybe (name "enumEntrySuffix")]) ",", maybe ";"]),
   hidden "enumEntrySuffix"
     (oneOf [inRole (name "enumTypeParameters"), seq [name "equalSign", inRole expression]]),
   shown "enumTypeParameters"
     (seq ["(",
           maybe (separated (seq [maybe (seq [maybe (name "wildcardPattern"), simpleName, ":"]),
                                  name "type", maybe (seq [name "equalSign", expression])]) ","),
           ")"]),
   shown "protocolDeclaration"
     (right (chain [[maybe (name "modifiers"), "protocol", typeName], typeTail,
                    [name "protocolBody"]])),
   shown "protocolBody" (seq ["\x7b", maybe (name "protocolMemberDeclarations"), "\x7d"]),
   hidden "protocolMemberDeclarations"
     (seq [separated (name "protocolMemberDeclaration") (name "separator"),
           maybe (name "separator")]),
   hidden "protocolMemberDeclaration"
     (oneOf [shownAs (seq [name "functionSignature",
                           maybe (inRole (name "functionBody"))]) "protocolFunctionDeclaration",
             name "initDeclaration", name "deinitDeclaration", name "protocolPropertyDeclaration",
             name "typealiasDeclaration", name "associatedTypeDeclaration",
             name "subscriptDeclaration"]),
   shown "initDeclaration"
     (right (chain [[maybe (name "modifiers"), maybe "class", "init",
                     maybe (anyNamed ["questionMark", "exclamationMark"]),
                     maybe (name "typeParameters"), name "functionValueParameters"],
                    effects, [maybe (name "typeConstraints"), maybe (name "functionBody")]])),
   shown "deinitDeclaration"
     (right (seq [maybe (name "modifiers"), "deinit", name "functionBody"])),
   shown "subscriptDeclaration"
     (right (seq [maybe (name "modifiers"), "subscript", maybe (name "typeParameters"),
                  name "functionValueParameters", returnClause, maybe (name "typeConstraints"),
                  name "computedProperty"])),
   shown "computedProperty"
     (seq ["\x7b",
           oneOf [maybe (name "statements"),
                  several (anyNamed ["computedGetter", "computedSetter", "computedModify"])],
           "\x7d"]),
   shown "computedGetter"
     (seq [several (name "attribute"), name "getterSpecifier", maybe (name "block")]),
   shown "computedModify"
     (seq [several (name "attribute"), name "modifySpecifier", maybe (name "block")]),
   shown "computedSetter"
     (seq [several (name "attribute"), name "setterSpecifier", maybe (seq ["(", simpleName, ")"]),
           maybe (name "block")]),
   shown "getterSpecifier"
     (seq [maybe (name "mutationModifier"), "get", maybe (name "getterEffects")]),
   shown "setterSpecifier" (seq [maybe (name "mutationModifier"), "set"]),
   shown "modifySpecifier" (seq [maybe (name "mutationModifier"), "_modify"]),
   hidden "getterEffects" (many (anyNamed ["asyncKeyword", "throwsClause", "throws"])),
   shown "operatorDeclaration"
     (seq [anyWord ["prefix", "infix", "postfix"], "operator", name "referenceableOperator",
           maybe (seq [":", simpleName]), maybe (name "deprecatedOperatorDeclarationBody")]),
   shown "deprecatedOperatorDeclarationBody"
     (seq ["\x7b", several (oneOf [simpleName, name "basicLiteral"]), "\x7d"]),
   shown "precedenceGroupDeclaration"
     (seq ["precedencegroup", simpleName, "\x7b", maybe (name "precedenceGroupAttributes"),
           "\x7d"]),
   shown "precedenceGroupAttributes" (many (name "precedenceGroupAttribute")),
   shown "precedenceGroupAttribute"
     (seq [simpleName, ":", oneOf [simpleName, name "booleanLiteral"]]),
   shown "associatedTypeDeclaration"
     (seq [maybe (name "modifiers"), "associatedtype", typeName, maybe (seq [":", name "type"]),
           maybe (name "typeConstraints"), maybe (seq [name "equalSign", name "type"])])]

end ViewCases.Source.Swift
