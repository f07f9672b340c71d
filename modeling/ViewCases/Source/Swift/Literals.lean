import ViewCases.Source.Swift.Basic

/-! The rules for whole sources, names and literals. -/
namespace ViewCases.Source.Swift
open Rule

def literals : List Definition :=
  [shown "sourceFile"
     (seq [maybe (name "shebangLine"),
           maybe (seq [name "topLevelStatement",
                       several (seq [name "separator", name "topLevelStatement"]),
                       maybe (name "separator")])]),
   hidden "separator" (oneOf [Mark.lineEnd, Mark.semicolon]),
   shown "shebangLine" (seq [name "hashSymbol", "!", shebangText]),
   shown "comment" lineComment,
   shown "simpleIdentifier"
     (oneOf [plainName, quotedName, dollarNumber, dollarName, name "contextualSimpleIdentifier"]),
   hidden "contextualSimpleIdentifier"
     (oneOf ["actor", "async", "each", "lazy", "repeat", "package",
             name "parameterOwnershipModifier"]),
   shown "identifier" (separated simpleName (name "dot")),
   hidden "basicLiteral"
     (oneOf [name "integerLiteral", name "hexLiteral", name "octLiteral", name "binLiteral",
             name "realLiteral", name "booleanLiteral", name "stringLiteral", name "regexLiteral",
             "nil"]),
   shown "realLiteral" realNumber,
   shown "integerLiteral" integerNumber,
   shown "hexLiteral" hexNumber,
   shown "octLiteral" octalNumber,
   shown "binLiteral" binaryNumber,
   shown "booleanLiteral" (anyWord ["true", "false"]),
   hidden "stringLiteral"
     (anyNamed ["lineStringLiteral", "multiLineStringLiteral", "rawStringLiteral"]),
   shown "lineStringLiteral"
     (seq ["\"", several (anyNamed ["lineStringContent", "interpolation"]), "\""]),
   hidden "lineStringContent" (anyNamed ["lineStringText", "escapedPiece"]),
   shown "lineStringText" lineText,
   shown "escapedPiece" (anyNamed ["escapedIdentifier", "scalarEscape"]),
   hidden "scalarEscape" (seq ["\\", "u", scalarDigits]),
   shown "multiLineStringLiteral"
     (seq ["\"\"\"", several (anyNamed ["multiLineStringContent", "interpolation"]), "\"\"\""]),
   shown "rawStringLiteral"
     (seq [several (seq [Mark.rawText, name "rawStringInterpolation", maybe Mark.rawTextAgain]),
           Mark.rawTextEnd]),
   shown "rawStringInterpolation"
     (seq [name "rawStringInterpolationStart", name "interpolationContents", ")"]),
   shown "rawStringInterpolationStart" rawInterpolation,
   hidden "multiLineStringContent"
     (oneOf [name "multiLineStringText", name "escapedPiece", "\""]),
   hidden "interpolation" (seq ["\\(", name "interpolationContents", ")"]),
   hidden "interpolationContents"
     (listed (inRole (shownAs (name "valueArgument") "interpolatedExpression")) ","),
   hidden "escapedIdentifier" escapedCharacter,
   shown "multiLineStringText" blockText,
   shown "regexLiteral"
     (anyNamed ["extendedRegexLiteral", "multilineRegexLiteral", "onelineRegexLiteral"]),
   hidden "extendedRegexLiteral" (seq [name "hashSymbol", extendedRegex]),
   hidden "multilineRegexLiteral" (seq [name "hashSymbol", blockRegexStart, blockRegexBody]),
   hidden "onelineRegexLiteral" lineRegex]

end ViewCases.Source.Swift
