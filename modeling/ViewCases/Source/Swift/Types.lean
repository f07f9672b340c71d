import ViewCases.Source.Swift.Basic

/-! The rules for types. -/
namespace ViewCases.Source.Swift
open Rule

def types : List Definition :=
  [shown "typeAnnotation" (seq [":", name "possiblyImplicitlyUnwrappedType"]),
   hidden "possiblyImplicitlyUnwrappedType" (seq [name "type", maybe (Token.adjacent "!")]),
   hidden "type"
     (rightLevel Level.typeName (seq [maybe (name "typeModifiers"),
                                      inRole (name "unannotatedType")])),
   hidden "unannotatedType"
     (rightLevel Level.typeName (anyNamed ["userType", "tupleType", "functionType", "arrayType",
                                           "dictionaryType", "optionalType", "metatype",
                                           "opaqueType", "existentialType",
                                           "protocolCompositionType", "typeParameterPack",
                                           "typePackExpansion", "suppressedConstraint"])),
   shown "userType" (separated (name "simpleUserType") (name "dot")),
   hidden "simpleUserType"
     (rightLevel Level.typeName (seq [typeName, maybe (name "typeArguments")])),
   shown "tupleType"
     (oneOf [seq ["(", maybe (listed (name "tupleTypeItem") ","), ")"],
             shownAs (name "parenthesizedType") "tupleTypeItem"]),
   shown "tupleTypeItem"
     (level Level.expression (seq [maybe (name "tupleTypeItemIdentifier"),
                                   maybe (name "parameterModifiers"), name "type"])),
   hidden "tupleTypeItemIdentifier"
     (level Level.expression (seq [maybe (name "wildcardPattern"), inRole simpleName, ":"])),
   shown "functionType"
     (seq [anyNamed ["tupleType", "unannotatedType"], maybe (name "asyncKeyword"),
           maybe (anyNamed ["throwsClause", "throws"]), name "arrowOperator", name "type"]),
   shown "arrayType" (seq ["[", name "type", "]"]),
   shown "dictionaryType" (seq ["[", name "type", ":", name "type", "]"]),
   shown "optionalType"
     (left (seq [anyNamed ["userType", "tupleType", "arrayType", "dictionaryType"],
                 many (shownAs (name "adjacentQuestionMark") "?")])),
   shown "metatype" (seq [name "unannotatedType", name "dot", anyWord ["Type", "Protocol"]]),
   hidden "questionMark" "?",
   hidden "adjacentQuestionMark" (Token.adjacent "?"),
   shown "opaqueType" (right (seq ["some", name "unannotatedType"])),
   shown "existentialType" (right (seq ["any", name "unannotatedType"])),
   shown "typeParameterPack" (left (seq ["each", name "unannotatedType"])),
   shown "typePackExpansion" (left (seq ["repeat", name "unannotatedType"])),
   shown "protocolCompositionType"
     (left (seq [name "unannotatedType", many (right (seq ["&", name "unannotatedType"]))])),
   shown "suppressedConstraint" (right (seq ["~", typeName]))]

end ViewCases.Source.Swift
